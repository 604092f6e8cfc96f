import DocBridge.Tree.Basic

/-!
# Trees as JSON

A node is written as an object with its name, its children and its attributes side by side, a text
leaf as a string. Attributes come last, so one that is called `name` or `children` hides what it is
called after. In reading, `children` may be missing or null.
-/

namespace DocBridge

namespace Child

mutual

def toValue : Child → Json.Value
  | text s => .string s
  | node name attributes children =>
    .ofMembers ([("name", .string name), ("children", .array (toValues children))] ++
      attributes.entries)

def toValues : List Child → List Json.Value
  | [] => []
  | c :: rest => toValue c :: toValues rest

end

end Child

namespace Node

def toValue (n : Node) : Json.Value := (Child.ofNode n).toValue

/-- The attributes among the members of an object. -/
def attributesAmong (members : Dictionary Json.Value) : Attributes :=
  .ofEntries (members.filter fun member => member.1 != "name" && member.1 != "children")

/-- The name among the members of an object. -/
def nameAmong (members : Dictionary Json.Value) : Except Error String :=
  match (members.find? "name").bind (·.string?) with
  | some name => .ok name
  | none => .error (.malformedTree .unnamed)

mutual

/-- The tree that a JSON value stands for. -/
def ofValue : Json.Value → Except Error Node
  | .object members => do
    let node ← named? (← nameAmong members)
    let children ← childrenAmong node.name members
    return { node with children, attributes := attributesAmong members }
  | v => .error (.malformedTree (.notObject v))

def childrenAmong (parent : String) : List (String × Json.Value) → Except Error (List Child)
  | [] => .ok []
  | (key, v) :: rest =>
    if key = "children" then childrenOf parent v else childrenAmong parent rest

def childrenOf (parent : String) : Json.Value → Except Error (List Child)
  | .null => .ok []
  | .array items => childrenOfItems parent items
  | v => .error (.malformedTree (.childrenNotList parent v))

def childrenOfItems (parent : String) : List Json.Value → Except Error (List Child)
  | [] => .ok []
  | v :: rest => do
    let child ← match v with
      | .string s => .ok (.text s)
      | .object _ => Child.ofNode <$> ofValue v
      | _ => .error (.malformedTree (.badChild parent v))
    return child :: (← childrenOfItems parent rest)

end

end Node

end DocBridge
