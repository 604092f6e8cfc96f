import DocBridge.Tree.Kind

/-!
# Trees of Pandoc documents

An element is an object with a tag and, for most tags, a content of a fixed form. Only what the tree
keeps is looked at, so attributes, list styles and whatever stands beside the blocks of a document
may have any form. Neighbouring texts become one text leaf.

A paragraph with a display formula as its only inline is a formula block.
-/

namespace DocBridge.Pandoc

def malformed {α : Type} (fault : TreeFault) : Except Error α := .error (.malformedTree fault)

/-- The tag of an element and its content, null when there is none. -/
def taggedContent (v : Json.Value) : Except Error (String × Json.Value) :=
  match (v.member? "t").bind (·.string?) with
  | some tag => .ok (tag, (v.member? "c").getD .null)
  | none => malformed (.untagged v)

def stringFor (tag : String) (v : Json.Value) : Except Error String :=
  match v with
  | .string s => .ok s
  | v => malformed (.notString tag v)

/-- The error for content that does not have a number of fields. -/
def notFields {α : Type} (tag : String) (count : Nat) (content : Json.Value) : Except Error α :=
  match content with
  | .array _ => malformed (.fieldCount tag count content)
  | _ => malformed (.notList tag content)

/-- The formula of an inline that is a display formula. -/
def displayFormula? (inline : Json.Value) : Except Error (Option String) := do
  let (tag, content) ← taggedContent inline
  if tag = Kind.math.name then
    match content with
    | .array [kind, text] =>
      if (← taggedContent kind).1 = "DisplayMath" then return some (← stringFor tag text)
      else return none
    | content => notFields tag 2 content
  else return none

/-- The formula of a list of inlines that is a display formula alone. -/
def loneFormula? : List Json.Value → Except Error (Option String)
  | [inline] => displayFormula? inline
  | _ => .ok none

def targetAttributes (tag : String) (target : Json.Value) : Except Error Attributes :=
  match target with
  | .array [url, title] => do
    let url ← stringFor tag url
    let title ← stringFor tag title
    let attributes := Attributes.empty.insert "url" (.string url)
    return if title = "" then attributes else attributes.insert "title" (.string title)
  | target => notFields tag 2 target

/-- The inlines that hold no other inlines; nothing for other tags. -/
def leafInline? (tag : String) (content : Json.Value) : Option (Except Error Child) :=
  if tag = "Str" then some (return .text (← stringFor tag content))
  else if tag = "Space" then some (.ok (.text " "))
  else
    match Kind.ofName? tag with
    | some .softBreak | some .lineBreak => some (.ok (.node tag ∅ []))
    | some .code | some .math =>
      match content with
      | .array [_, text] => some (return .node tag ∅ [.text (← stringFor tag text)])
      | content => some (notFields tag 2 content)
    | _ => none

/-- The error for an inline, with other inlines in it, whose content has not the right form. -/
def inlineFault {α : Type} (tag : String) (content : Json.Value) : Except Error α :=
  match Kind.ofName? tag with
  | some .emph | some .strong => malformed (.notList tag content)
  | some .link | some .image => notFields tag 3 content
  | _ => malformed (.unsupported tag .pandocInline)

mutual

def inlineOf : Json.Value → Except Error Child
  | .object members =>
    match (Dictionary.find? members "t").bind (·.string?) with
    | some tag => inlineAmong tag members
    | none => malformed (.untagged (.object members))
  | v => malformed (.untagged v)

/-- The inline with a tag whose content is among these members. -/
def inlineAmong (tag : String) : List (String × Json.Value) → Except Error Child
  | [] => (leafInline? tag .null).getD (inlineFault tag .null)
  | (key, content) :: rest =>
    if key = "c" then inlineWith tag content else inlineAmong tag rest

def inlineWith (tag : String) (content : Json.Value) : Except Error Child :=
  match leafInline? tag content with
  | some inline => inline
  | none =>
    match Kind.ofName? tag, content with
    | some .emph, .array inlines | some .strong, .array inlines =>
      return .node tag ∅ (← inlinesOf inlines)
    | some .link, .array [_, inlines, target] | some .image, .array [_, inlines, target] => do
      let attributes ← targetAttributes tag target
      match inlines with
      | .array inlines => return .node tag attributes (← inlinesOf inlines)
      | inlines => malformed (.notList tag inlines)
    | _, content => inlineFault tag content

def inlinesOf : List Json.Value → Except Error (List Child)
  | [] => .ok []
  | v :: rest => do
    let first ← inlineOf v
    return Child.join first (← inlinesOf rest)

end

/-- The inlines in the field of an element that should be a list of them. -/
def inlinesFor (tag : String) (field : Json.Value) : Except Error (List Child) :=
  match field with
  | .array inlines => inlinesOf inlines
  | field => malformed (.notList tag field)

/-- The language of a code block, its first class. -/
def languageAttributes (attributes : Json.Value) : Attributes :=
  match ((attributes.item? 1).bind (·.item? 0)).bind (·.string?) with
  | some language => Attributes.empty.insert "lang" (.string language)
  | none => ∅

/-- The attributes of an ordered list: its first number and its delimiter. -/
def listAttributes (tag : String) (style : Json.Value) : Except Error Attributes :=
  match style with
  | .array [start, _, delimiter] => do
    let (delimiter, _) ← taggedContent delimiter
    let delimiter := if delimiter = "OneParen" ∨ delimiter = "TwoParens" then ")" else "."
    return (Attributes.empty.insert "start" (.natural (start.natural?.getD 1))).insert "delimiter"
      (.string delimiter)
  | style => notFields tag 3 style

/-- The blocks that hold no other blocks; nothing for other tags. -/
def leafBlock? (tag : String) (content : Json.Value) : Option (Except Error Child) :=
  match Kind.ofName? tag, content with
  | some .para, .array inlines => some do
    match ← loneFormula? inlines with
    | some formula => return Child.ofNode (.ofText Kind.mathBlock.name formula)
    | none => return .node tag ∅ (← inlinesOf inlines)
  | some .plain, .array inlines => some (return .node tag ∅ (← inlinesOf inlines))
  | some .header, .array [level, _, inlines] => some do
    match level.natural? with
    | some n =>
      return .node tag (Attributes.empty.insert "level" (.natural n)) (← inlinesFor tag inlines)
    | none => malformed (.badLevel level)
  | some .header, content => some (notFields tag 3 content)
  | some .codeBlock, .array [attributes, text] =>
    some (return .node tag (languageAttributes attributes) [.text (← stringFor tag text)])
  | some .codeBlock, content => some (notFields tag 2 content)
  | _, _ => none

/-- The error for a block that is no leaf and whose content has not the right form. -/
def blockFault {α : Type} (tag : String) (content : Json.Value) : Except Error α :=
  match Kind.ofName? tag with
  | some .para | some .plain | some .blockQuote | some .bulletList =>
    malformed (.notList tag content)
  | some .orderedList => notFields tag 2 content
  | _ => malformed (.unsupported tag .pandocBlock)

mutual

def blockOf : Json.Value → Except Error Child
  | .object members =>
    match (Dictionary.find? members "t").bind (·.string?) with
    | some tag => blockAmong tag members
    | none => malformed (.untagged (.object members))
  | v => malformed (.untagged v)

/-- The block with a tag whose content is among these members. -/
def blockAmong (tag : String) : List (String × Json.Value) → Except Error Child
  | [] => (leafBlock? tag .null).getD (blockFault tag .null)
  | (key, content) :: rest =>
    if key = "c" then blockWith tag content else blockAmong tag rest

def blockWith (tag : String) (content : Json.Value) : Except Error Child :=
  match leafBlock? tag content with
  | some block => block
  | none =>
    match Kind.ofName? tag, content with
    | some .blockQuote, .array blocks => return .node tag ∅ (← blocksOf blocks)
    | some .bulletList, .array items => return .node tag ∅ (← itemsOf items)
    | some .orderedList, .array [style, items] => do
      let attributes ← listAttributes tag style
      match items with
      | .array items => return .node tag attributes (← itemsOf items)
      | items => malformed (.notList tag items)
    | _, content => blockFault tag content

def blocksOf : List Json.Value → Except Error (List Child)
  | [] => .ok []
  | v :: rest => do
    let first ← blockOf v
    return first :: (← blocksOf rest)

def itemOf : Json.Value → Except Error Child
  | .array blocks => return Child.ofNode (Kind.listItem.node (← blocksOf blocks))
  | v => malformed (.notList "list item" v)

def itemsOf : List Json.Value → Except Error (List Child)
  | [] => .ok []
  | v :: rest => do
    let first ← itemOf v
    return first :: (← itemsOf rest)

end

/-- The tree of a document. -/
def tree (v : Json.Value) : Except Error Node :=
  match v.member? "blocks" with
  | some (.array blocks) => return Kind.root.node (← blocksOf blocks)
  | _ => malformed .noBlocks

end DocBridge.Pandoc
