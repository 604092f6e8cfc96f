import DocBridge.Text.Lines
import DocBridge.Tree.Traversal

/-!
# Diagrams of trees

A tree is drawn with one line for each node and text leaf, lines before the names showing which node
belongs to which. The drawing of a child is a block of lines; its parent draws a branch before the
first of them and goes on with a stroke before the others unless the child is the last one.

A text leaf is drawn on one line with its line feeds written as `\n`. An only child that takes a
single line is shortened when that is longer than a limit.
-/

namespace DocBridge

namespace Diagram

/-- A text with its line feeds made visible. -/
def showLineFeeds (s : String) : String :=
  String.ofList (s.toList.flatMap fun c => if c = '\n' then ['\\', 'n'] else [c])

/-- The head and the tail of a line that is longer than a limit. -/
def shorten (limit : Nat) (line : String) : String :=
  let cs := line.toList
  if cs.length ≤ limit then line
  else
    let half := limit / 2
    String.ofList (cs.take half) ++ " (...) " ++ String.ofList (cs.drop (cs.length - half))

def shortenOnly (limit : Nat) : List (List String) → List (List String)
  | [[line]] => [[shorten limit line]]
  | blocks => blocks

def branch (first others : String) : List String → List String
  | [] => []
  | line :: rest => (first ++ line) :: rest.map (others ++ ·)

def attachBlocks : List (List String) → List String
  | [] => []
  | [block] => branch "└─ " "   " block
  | block :: rest => branch "├─ " "│  " block ++ attachBlocks rest

def traversal (limit : Nat) : Traversal Id (List String) where
  handlers := []
  fallback := fun n _ children =>
    return .one (Text.lines n.name ++ attachBlocks (shortenOnly limit (← children)))
  text := fun s => return .one [showLineFeeds s]

/-- How long an only line may be by default. -/
def defaultLimit : Nat := 40

end Diagram

/-- The drawing of a tree. -/
def Node.diagram (limit : Nat) (n : Node) : String :=
  Text.joinLines ((Diagram.traversal limit).run n).toList.flatten

end DocBridge
