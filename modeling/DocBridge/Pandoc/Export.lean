import DocBridge.Pandoc.Words
import DocBridge.Tree.Kind

/-!
# Trees as Pandoc documents

A Pandoc document is a JSON object with a version, empty metadata and a list of blocks. Elements are
tagged objects. Headings, code and links carry attributes of their own in Pandoc, which are written
empty but for the language of a code block, its first class.

A block has to stand where a block is expected and an inline where an inline is. What is below code
and formulas is text wherever it stands, and what is below a break plays no part.
-/

namespace DocBridge.Pandoc

abbrev Version := List Nat

def defaultVersion : Version := [1, 23]

def bare (tag : String) : Json.Value := .ofMembers [("t", .string tag)]

def tagged (tag : String) (content : Json.Value) : Json.Value :=
  .ofMembers [("t", .string tag), ("c", content)]

/-- An identifier, classes and further attributes. -/
def attributesWith (classes : List String) : Json.Value :=
  .array [.string "", .array (classes.map .string), .array []]

def pieceValue : Piece → Json.Value
  | .word text => tagged "Str" (.string (String.ofList text))
  | .space => bare "Space"
  | .softBreak => bare "SoftBreak"

def textValues (s : String) : List Json.Value := (Piece.ofText s.toList).map pieceValue

def delimiterTag (n : Node) : String :=
  if n.string? "delimiter" = some ")" then "OneParen" else "Period"

def unsupported {α : Type} (name : String) (role : Role) : Except Error α :=
  .error (.malformedTree (.unsupported name role))

mutual

def blockValue : Child → Except Error Json.Value
  | .text s => .error (.malformedTree (.textAsBlock s))
  | .node name attributes children =>
    let n : Node := ⟨name, attributes, children⟩
    match Kind.ofName? name with
    | some .para | some .plain => return tagged name (.array (← inlineValues children))
    | some .header =>
      return tagged name (.array [.natural ((n.natural? "level").getD 1), attributesWith [],
        .array (← inlineValues children)])
    | some .codeBlock =>
      return tagged name (.array [attributesWith (n.string? "lang").toList,
        .string n.textContent])
    | some .blockQuote => return tagged name (.array (← blockValues children))
    | some .bulletList => return tagged name (.array (← itemValues name children))
    | some .orderedList =>
      let style := Json.Value.array
        [.natural ((n.natural? "start").getD 1), bare "Decimal", bare (delimiterTag n)]
      return tagged name (.array [style, .array (← itemValues name children)])
    | some .mathBlock =>
      return tagged "Para" (.array
        [tagged "Math" (.array [bare "DisplayMath", .string n.textContent])])
    | _ => unsupported name .block

def blockValues : List Child → Except Error (List Json.Value)
  | [] => .ok []
  | c :: rest => do
    let first ← blockValue c
    return first :: (← blockValues rest)

/-- One item of the list with the given name. -/
def itemValue (list : String) : Child → Except Error Json.Value
  | .text _ => .error (.malformedTree (.notListItem list))
  | .node name _ children =>
    if name = Kind.listItem.name then return .array (← blockValues children)
    else .error (.malformedTree (.notListItem list))

def itemValues (list : String) : List Child → Except Error (List Json.Value)
  | [] => .ok []
  | c :: rest => do
    let first ← itemValue list c
    return first :: (← itemValues list rest)

/-- The inlines for one child, of which a text leaf may give any number. -/
def inlineValue : Child → Except Error (List Json.Value)
  | .text s => .ok (textValues s)
  | .node name attributes children =>
    let n : Node := ⟨name, attributes, children⟩
    match Kind.ofName? name with
    | some .emph | some .strong => return [tagged name (.array (← inlineValues children))]
    | some .code => return [tagged name (.array [attributesWith [], .string n.textContent])]
    | some .math => return [tagged name (.array [bare "InlineMath", .string n.textContent])]
    | some .link | some .image =>
      let target := Json.Value.array
        [.string ((n.string? "url").getD ""), .string ((n.string? "title").getD "")]
      return [tagged name (.array [attributesWith [], .array (← inlineValues children), target])]
    | some .softBreak | some .lineBreak => return [bare name]
    | _ => unsupported name .inline

def inlineValues : List Child → Except Error (List Json.Value)
  | [] => .ok []
  | c :: rest => do
    let first ← inlineValue c
    return first ++ (← inlineValues rest)

end

/-- The document for a tree, whose root may have any name. -/
def document (version : Version) (root : Node) : Except Error Json.Value := do
  return .ofMembers [("pandoc-api-version", .array (version.map .natural)), ("meta", .object []),
    ("blocks", .array (← blockValues root.children))]

end DocBridge.Pandoc
