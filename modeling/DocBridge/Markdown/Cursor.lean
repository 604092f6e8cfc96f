import DocBridge.Text.Ascii

/-!
# Places in a line

Indentation is counted in columns, and a tab reaches to the next column that is a multiple of
four. A place in a line may lie within a tab, since the prefix of a container can end there; what
is left of the tab then counts as spaces.
-/

namespace DocBridge.Markdown

open Text

/-- A place in a line: its column, the columns left of a tab it lies in, and what follows. -/
structure Cursor where
  column : Nat
  left : Nat
  rest : List Char
deriving Repr

namespace Cursor

/-- The columns from a column to the next tab stop. -/
def toTabStop (column : Nat) : Nat := 4 - column % 4

def ofLine (line : List Char) : Cursor := ⟨0, 0, line⟩

/-- The width of the spaces and tabs at the front of a text that begins in a column. -/
def widthFrom (column : Nat) : List Char → Nat
  | [] => 0
  | c :: rest =>
    if c = ' ' then 1 + widthFrom (column + 1) rest
    else if c = '\t' then toTabStop column + widthFrom (column + toTabStop column) rest
    else 0

/-- How far the next text is indented. -/
def indentation (cursor : Cursor) : Nat :=
  cursor.left + widthFrom (cursor.column + cursor.left) cursor.rest

/-- What follows the spaces and tabs. -/
def text (cursor : Cursor) : List Char := cursor.rest.dropWhile isSpaceOrTab

def isBlank (cursor : Cursor) : Bool := cursor.text.isEmpty

/-- Behind the spaces and tabs. -/
def toText (cursor : Cursor) : Cursor := ⟨cursor.column + cursor.indentation, 0, cursor.text⟩

/-- A number of columns further on, or at the end of the line. -/
def advance : Nat → Cursor → Cursor
  | 0, cursor => cursor
  | n + 1, ⟨column, left + 1, rest⟩ => advance n ⟨column + 1, left, rest⟩
  | n + 1, ⟨column, 0, c :: rest⟩ =>
    if c = '\t' then advance n ⟨column + 1, toTabStop column - 1, rest⟩
    else advance n ⟨column + 1, 0, rest⟩
  | _ + 1, cursor => cursor

/-- Behind a number of characters that are no tabs. -/
def skip (n : Nat) (cursor : Cursor) : Cursor := ⟨cursor.column + n, 0, cursor.rest.drop n⟩

def atSpace (cursor : Cursor) : Bool :=
  cursor.left != 0 || (cursor.rest.head?.map isSpaceOrTab).getD false

/-- How many characters the spaces and tabs are, a tab the cursor lies in counted once. -/
def spaceCharacters (cursor : Cursor) : Nat :=
  (if cursor.left = 0 then 0 else 1) + (cursor.rest.takeWhile isSpaceOrTab).length

/-- The rest of the line. -/
def remainder (cursor : Cursor) : List Char := List.replicate cursor.left ' ' ++ cursor.rest

end Cursor

end DocBridge.Markdown
