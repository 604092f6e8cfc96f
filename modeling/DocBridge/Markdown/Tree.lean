import DocBridge.Markdown.Document
import DocBridge.Tree.Kind

/-!
# Trees of Markdown documents

Each block and inline becomes a node, except that rules and HTML leave nothing and that neighbouring
texts become one leaf. A paragraph right in an item of a tight list is plain text, and a paragraph
with a display formula as its only inline is a formula block.
-/

namespace DocBridge.Markdown

/-- Attributes for a link or an image. An empty title is none. -/
def linkAttributes (url title : String) : Attributes :=
  let attributes := Attributes.empty.insert "url" (.string url)
  if title = "" then attributes else attributes.insert "title" (.string title)

def listAttributes : Marker → Attributes
  | .bullet _ => ∅
  | .ordered start delimiter =>
    (Attributes.empty.insert "start" (.natural start)).insert "delimiter"
      (.string (String.ofList [delimiter]))

def listKind : Marker → Kind
  | .bullet _ => .bulletList
  | .ordered _ _ => .orderedList

namespace Inline

mutual

def toChild? : Inline → Option Child
  | text s => some (.text s)
  | softBreak => some (.node Kind.softBreak.name ∅ [])
  | lineBreak => some (.node Kind.lineBreak.name ∅ [])
  | emph children => some (.node Kind.emph.name ∅ (toChildren children))
  | strong children => some (.node Kind.strong.name ∅ (toChildren children))
  | code s => some (.node Kind.code.name ∅ [.text s])
  | math _ s => some (.node Kind.math.name ∅ [.text s])
  | link url title children =>
    some (.node Kind.link.name (linkAttributes url title) (toChildren children))
  | image url title children =>
    some (.node Kind.image.name (linkAttributes url title) (toChildren children))
  | html => none

def toChildren : List Inline → List Child
  | [] => []
  | i :: rest =>
    match toChild? i with
    | some c => Child.join c (toChildren rest)
    | none => toChildren rest

end

end Inline

/-- The node for a paragraph. -/
def paragraphNode (isPlain : Bool) : List Inline → Child
  | [.math true s] => .node Kind.mathBlock.name ∅ [.text s]
  | inlines => .node (if isPlain then Kind.plain else Kind.para).name ∅ (Inline.toChildren inlines)

namespace Block

mutual

/-- The node for a block, which may stand right in an item of a tight list. -/
def toChild? (isPlain : Bool) : Block (List Inline) → Option Child
  | paragraph inlines => some (paragraphNode isPlain inlines)
  | heading level inlines =>
    some (.node Kind.header.name (Attributes.empty.insert "level" (.natural level))
      (Inline.toChildren inlines))
  | code language text =>
    let attributes := match language with
      | some word => Attributes.empty.insert "lang" (.string word)
      | none => ∅
    some (.node Kind.codeBlock.name attributes [.text text])
  | quote blocks => some (.node Kind.blockQuote.name ∅ (toChildren false blocks))
  | list marker isTight items =>
    some (.node (listKind marker).name (listAttributes marker) (itemChildren isTight items))
  | rule => none
  | html => none

def toChildren (isPlain : Bool) : List (Block (List Inline)) → List Child
  | [] => []
  | block :: rest => (toChild? isPlain block).toList ++ toChildren isPlain rest

def itemChildren (isTight : Bool) : List (List (Block (List Inline))) → List Child
  | [] => []
  | item :: rest =>
    .node Kind.listItem.name ∅ (toChildren isTight item) :: itemChildren isTight rest

end

end Block

/-- The tree of a document. -/
def Document.tree (document : Document) : Node := Kind.root.node (Block.toChildren false document)

end DocBridge.Markdown
