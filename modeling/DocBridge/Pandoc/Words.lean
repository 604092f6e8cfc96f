/-!
# Words and separators

Text among inlines is cut into words and separators. A word is a maximal run of characters other
than space, tab and line feed, a separator a maximal run of these, and a separator is a soft break
when it holds a line feed and a space otherwise.
-/

namespace DocBridge.Pandoc

inductive Piece where
  | word (text : List Char)
  | space
  | softBreak
deriving DecidableEq, Repr

namespace Piece

def isSeparator (c : Char) : Bool := c == ' ' || c == '\t' || c == '\n'

def separator (c : Char) : Piece := if c = '\n' then softBreak else space

/-- Puts a character before pieces: it joins the first of them or makes a piece of its own. -/
def extend (c : Char) : List Piece → List Piece
  | word text :: rest =>
    if isSeparator c then separator c :: word text :: rest else word (c :: text) :: rest
  | space :: rest => if isSeparator c then separator c :: rest else word [c] :: space :: rest
  | softBreak :: rest =>
    if isSeparator c then softBreak :: rest else word [c] :: softBreak :: rest
  | [] => if isSeparator c then [separator c] else [word [c]]

/-- The pieces of a text. -/
def ofText (s : List Char) : List Piece := s.foldr extend []

end Piece

end DocBridge.Pandoc
