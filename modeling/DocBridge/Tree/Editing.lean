import DocBridge.Tree.Traversal

/-!
# Editing trees

An edit is a traversal that makes trees of trees. Nodes of a kind without a handler are kept, with
their children edited, so a table of handlers says only what changes.
-/

namespace DocBridge

def editing (handlers : Handlers (Except Error) Child) : Traversal (Except Error) Child where
  handlers := handlers
  fallback := fun n _ children => return .one (n.withChildren (← children))
  text := fun s => return .one (.text s)

namespace Node

/-- The edited tree. What becomes of the root has to be a single node. -/
def edit (handlers : Handlers (Except Error) Child) (root : Node) : Except Error Node := do
  match (← (editing handlers).run root).toList with
  | [.node name attributes children] => return ⟨name, attributes, children⟩
  | _ => .error (.malformedTree (.noSingleRoot root.name))

end Node

end DocBridge
