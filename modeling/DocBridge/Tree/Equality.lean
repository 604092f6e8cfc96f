import DocBridge.Tree.Basic

/-!
# Equality of trees

Two trees are equal when names, children and attributes agree, attribute values as JSON values. The
attribute `m` holds the metadata of a document; when it is an empty object it counts as absent.
-/

namespace DocBridge

/-- Whether an attribute says as much as its absence. -/
def isEmptyMetadata (key : String) (value : Json.Value) : Bool :=
  key == "m" && match value with
    | .object [] => true
    | _ => false

namespace Attributes

/-- Whether an entry has an equal partner, or needs none. -/
def matchedIn (other : Attributes) (entry : String × Json.Value) : Bool :=
  match other.find? entry.1 with
  | some value => entry.2.same value
  | none => isEmptyMetadata entry.1 entry.2

def same (left right : Attributes) : Bool :=
  left.entries.all (matchedIn right) &&
    (right.entries.filter fun entry => (left.find? entry.1).isNone).all fun entry =>
      isEmptyMetadata entry.1 entry.2

end Attributes

namespace Child

mutual

def same : Child → Child → Bool
  | text s, text t => s == t
  | node name attributes children, node name' attributes' children' =>
    name == name' && allSame children children' && attributes.same attributes'
  | _, _ => false

def allSame : List Child → List Child → Bool
  | [], [] => true
  | c :: rest, c' :: rest' => same c c' && allSame rest rest'
  | _, _ => false

end

end Child

/-- Equality of trees. -/
def Node.same (left right : Node) : Bool := (Child.ofNode left).same (Child.ofNode right)

end DocBridge
