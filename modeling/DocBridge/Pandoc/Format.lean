import DocBridge.Json.Reader
import DocBridge.Pandoc.Export
import DocBridge.Pandoc.Import

/-!
# Pandoc documents as text
-/

namespace DocBridge.Pandoc

/-- The tree of a document given as JSON text. -/
def read (text : String) : Except Error Node :=
  match Json.read? Json.documentDepth text with
  | some v => tree v
  | none => .error .parse

/-- A tree as the JSON text of a document, spread over lines. -/
def write (version : Version) (root : Node) : Except Error String :=
  return (← document version root).pretty

end DocBridge.Pandoc
