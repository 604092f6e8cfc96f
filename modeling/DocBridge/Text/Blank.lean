/-!
# Blank characters

The characters with the Unicode property `White_Space`, and what is made with them: telling whether
a text is blank, taking its first word. Trimming is for any kind of characters.
-/

namespace DocBridge.Text

def isBlank (c : Char) : Bool :=
  let n := c.toNat
  (0x09 ≤ n && n ≤ 0x0D) || n == 0x20 || n == 0x85 || n == 0xA0 || n == 0x1680 ||
    (0x2000 ≤ n && n ≤ 0x200A) || n == 0x2028 || n == 0x2029 || n == 0x202F || n == 0x205F ||
    n == 0x3000

/-- Without a single character that is not blank. -/
def allBlank (s : String) : Bool := s.toList.all isBlank

/-- Drops the characters of a kind from the end. -/
def dropRightWhile (p : Char → Bool) (s : List Char) : List Char :=
  (s.reverse.dropWhile p).reverse

/-- Drops the characters of a kind from both ends. -/
def trimWhile (p : Char → Bool) (s : List Char) : List Char := dropRightWhile p (s.dropWhile p)

/-- The first run of characters that are not blank. -/
def firstWord (s : List Char) : List Char :=
  (s.dropWhile isBlank).takeWhile (!isBlank ·)

end DocBridge.Text
