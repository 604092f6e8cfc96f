/-!
# Classes of ASCII characters

Formats whose rules are written in bytes use these classes. No character beyond ASCII is in any of
them.
-/

namespace DocBridge.Text

/-- Tab, line feed, vertical tab, form feed, carriage return and space. -/
def isAsciiBlank (c : Char) : Bool := c == ' ' || (0x09 ≤ c.toNat && c.toNat ≤ 0x0D)

def isSpaceOrTab (c : Char) : Bool := c == ' ' || c == '\t'

/-- Space, tab, line feed and carriage return. -/
def isSpacing (c : Char) : Bool := isSpaceOrTab c || c == '\n' || c == '\r'

def isAsciiControl (c : Char) : Bool := c.toNat < 0x20 || c.toNat == 0x7F

def isAsciiPunctuation (c : Char) : Bool :=
  let n := c.toNat
  (0x21 ≤ n && n ≤ 0x2F) || (0x3A ≤ n && n ≤ 0x40) || (0x5B ≤ n && n ≤ 0x60) ||
    (0x7B ≤ n && n ≤ 0x7E)

end DocBridge.Text
