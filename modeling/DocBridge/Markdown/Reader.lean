import DocBridge.Markdown.InlineReader
import DocBridge.Markdown.Outline
import DocBridge.Markdown.Tree

/-!
# Reading Markdown

Every text is Markdown. Its blocks are told apart first, and the text in them is read with all
definitions known, also those that come later.
-/

namespace DocBridge.Markdown

/-- How many bytes of defined targets a document may use: as many as its source has, and in a
short one as many as this. -/
def leastAllowance : Nat := 100000

def readDocument (source : String) : Document :=
  let (blocks, references) := Outline.read source
  (Block.traverseAll (readInlines references) blocks (max leastAllowance source.utf8ByteSize)).1

/-- The tree of a Markdown text. -/
def read (source : String) : Node := (readDocument source).tree

end DocBridge.Markdown
