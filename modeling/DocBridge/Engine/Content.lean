import DocBridge.Error
import DocBridge.Tree.Basic

/-!
# Content

What converters pass on: the text of a document in some language, or its tree.
-/

namespace DocBridge

inductive Content where
  | text (text : String)
  | tree (root : Node)

namespace Content

def kind : Content → ContentKind
  | text _ => .text
  | tree _ => .tree

def intoText : Content → Except Error String
  | text s => .ok s
  | tree _ => .error (.unexpectedContent .text .tree)

def intoTree : Content → Except Error Node
  | tree root => .ok root
  | text _ => .error (.unexpectedContent .tree .text)

end Content

end DocBridge
