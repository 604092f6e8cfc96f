import DocBridge.Tree.Basic

/-!
# Kinds of nodes

The kinds that the formats know. A tree may hold nodes of any name; each format says what it makes
of the others.
-/

namespace DocBridge

inductive Kind where
  | root
  | para
  | plain
  | header
  | codeBlock
  | blockQuote
  | bulletList
  | orderedList
  | listItem
  | mathBlock
  | emph
  | strong
  | code
  | math
  | link
  | image
  | softBreak
  | lineBreak
deriving DecidableEq, Repr

namespace Kind

def name : Kind → String
  | root => "root"
  | para => "Para"
  | plain => "Plain"
  | header => "Header"
  | codeBlock => "CodeBlock"
  | blockQuote => "BlockQuote"
  | bulletList => "BulletList"
  | orderedList => "OrderedList"
  | listItem => "ListItem"
  | mathBlock => "MathBlock"
  | emph => "Emph"
  | strong => "Strong"
  | code => "Code"
  | math => "Math"
  | link => "Link"
  | image => "Image"
  | softBreak => "SoftBreak"
  | lineBreak => "LineBreak"

def all : List Kind :=
  [root, para, plain, header, codeBlock, blockQuote, bulletList, orderedList, listItem, mathBlock,
    emph, strong, code, math, link, image, softBreak, lineBreak]

/-- The kind with a name. -/
def ofName? (name : String) : Option Kind := all.find? (·.name == name)

@[simp] theorem ofName?_name (kind : Kind) : ofName? kind.name = some kind := by
  cases kind <;> decide

theorem name_injective {a b : Kind} (h : a.name = b.name) : a = b :=
  Option.some.inj (by rw [← ofName?_name a, h, ofName?_name])

theorem name_of_ofName? {name : String} {kind : Kind} (h : ofName? name = some kind) :
    kind.name = name := by
  simpa using List.find?_some h

/-- A node of a kind with these children. -/
def node (kind : Kind) (children : List Child) : Node := { name := kind.name, children }

end Kind

end DocBridge
