import DocBridge.Error
import DocBridge.Text.Blank

/-!
# Document trees

A node has a kind name, attributes with JSON values and an ordered list of children. A child is a
text leaf or again a node. All recursion goes over children; `Node` is the view of a child that is
known to be no text leaf.

Node names are not blank in a tree that comes from input, which is what `Node.named?` checks. Names
written in the library are literals.
-/

namespace DocBridge

/-- Attributes by key, sorted. -/
structure Attributes where
  entries : Dictionary Json.Value
  sorted : Dictionary.Sorted entries

namespace Attributes

def empty : Attributes := ⟨[], Dictionary.sorted_nil⟩

instance : EmptyCollection Attributes := ⟨empty⟩

instance : Inhabited Attributes := ⟨empty⟩

def find? (attributes : Attributes) (key : String) : Option Json.Value :=
  Dictionary.find? attributes.entries key

def insert (attributes : Attributes) (key : String) (value : Json.Value) : Attributes :=
  ⟨Dictionary.insert key value attributes.entries,
    Dictionary.sorted_insert attributes.sorted key value⟩

/-- The attributes in a list of entries, the last of those with one key. -/
def ofEntries (entries : List (String × Json.Value)) : Attributes :=
  ⟨Dictionary.ofEntries entries, Dictionary.sorted_ofEntries entries⟩

end Attributes

inductive Child where
  | text (text : String)
  | node (name : String) (attributes : Attributes) (children : List Child)
deriving Inhabited

structure Node where
  name : String
  attributes : Attributes := ∅
  children : List Child := []
deriving Inhabited

namespace Child

def ofNode (n : Node) : Child := node n.name n.attributes n.children

instance : Coe Node Child := ⟨ofNode⟩

def node? : Child → Option Node
  | text _ => none
  | node name attributes children => some ⟨name, attributes, children⟩

mutual

/-- The text of every leaf, in document order. -/
def textContent : Child → String
  | text s => s
  | node _ _ children => textOfAll children

def textOfAll : List Child → String
  | [] => ""
  | c :: rest => textContent c ++ textOfAll rest

end

/-- Appends text to children, in the last of them when that is a text leaf. -/
def appendText (added : String) : List Child → List Child
  | [] => [text added]
  | [text s] => [text (s ++ added)]
  | c :: rest => c :: appendText added rest

/-- Puts a child before others; two texts become one. -/
def join : Child → List Child → List Child
  | text s, text t :: rest => text (s ++ t) :: rest
  | c, rest => c :: rest

/-- Appends text to a leaf, or to the children of a node. -/
def addText (added : String) : Child → Child
  | text s => text (s ++ added)
  | node name attributes children => node name attributes (appendText added children)

end Child

namespace Node

/-- A node without attributes and children, if the name is not blank. -/
def named? (name : String) : Except Error Node :=
  if Text.allBlank name then .error (.malformedTree .blankName) else .ok { name }

/-- A node with a text leaf as its only child. -/
def ofText (name text : String) : Node := { name, children := [.text text] }

def attribute? (n : Node) (key : String) : Option Json.Value := n.attributes.find? key

def string? (n : Node) (key : String) : Option String := (n.attribute? key).bind (·.string?)

def natural? (n : Node) (key : String) : Option Nat := (n.attribute? key).bind (·.natural?)

def setAttribute (n : Node) (key : String) (value : Json.Value) : Node :=
  { n with attributes := n.attributes.insert key value }

def withChildren (n : Node) (children : List Child) : Node := { n with children }

def addChild (n : Node) (child : Child) : Node := { n with children := n.children ++ [child] }

/-- Appends text, merged into a text leaf at the end. -/
def addText (n : Node) (added : String) : Node :=
  { n with children := Child.appendText added n.children }

def textContent (n : Node) : String := Child.textOfAll n.children

end Node

end DocBridge
