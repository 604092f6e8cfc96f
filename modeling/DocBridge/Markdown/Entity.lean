import DocBridge.Markdown.Entity.Names
import DocBridge.Text.Ascii
import DocBridge.Text.Digits

/-!
# Character references and escapes

A character reference names a character, by its HTML name or by its code point in decimal or
hexadecimal digits, and ends in a semicolon. A backslash escapes the ASCII punctuation after it.
In addresses, titles and info strings references are resolved first and backslashes taken away
afterwards.
-/

namespace DocBridge.Markdown.Entity

/-- The first code point behind the surrogates. -/
def behindSurrogates : Nat := 0xE000

/-- The character with a code point. The replacement character stands for zero, for code points that
are no character and for the one behind the surrogates. -/
def character (n : Nat) : Char :=
  if n = 0 ∨ n = behindSurrogates ∨ ¬ n.isValidChar then '\uFFFD' else Char.ofNat n

/-- How many digits a reference by code point may have. -/
def mostDigits : Nat := 7

/-- Digits of a base and a semicolon. -/
def numeric? (base : Nat) (isDigit : Char → Bool) (s : List Char) :
    Option (List Char × List Char) :=
  let digits := s.takeWhile isDigit
  match s.dropWhile isDigit with
  | ';' :: rest =>
    if 1 ≤ digits.length ∧ digits.length ≤ mostDigits then
      some ([character (Text.valueOf base digits)], rest)
    else none
  | _ => none

def named? (s : List Char) : Option (List Char × List Char) :=
  let name := s.takeWhile (· != ';')
  match s.dropWhile (· != ';') with
  | _ :: rest =>
    match (namesFor ((name.headD ' ').toLower)).lookup (String.ofList name) with
    | some codes => some (codes.map Char.ofNat, rest)
    | none => none
  | [] => none

/-- The characters that a reference stands for, read after its ampersand, and what follows it. -/
def read? (s : List Char) : Option (List Char × List Char) :=
  match s with
  | '#' :: 'x' :: rest | '#' :: 'X' :: rest => numeric? 16 Text.isHexDigit rest
  | '#' :: rest => numeric? 10 Char.isDigit rest
  | s => named? s

/-- Resolves references in a text of at most so many characters. -/
def resolveWithin : Nat → List Char → List Char
  | 0, s => s
  | _, [] => []
  | bound + 1, c :: rest =>
    if c = '&' then
      match read? rest with
      | some (cs, rest) => cs ++ resolveWithin bound rest
      | none => c :: resolveWithin bound rest
    else c :: resolveWithin bound rest

def resolve (s : List Char) : List Char := resolveWithin s.length s

/-- Takes away the backslashes before ASCII punctuation. -/
def dropBackslashes : List Char → List Char
  | '\\' :: c :: rest =>
    if Text.isAsciiPunctuation c then c :: dropBackslashes rest
    else '\\' :: dropBackslashes (c :: rest)
  | c :: rest => c :: dropBackslashes rest
  | [] => []

def clean (s : List Char) : List Char := dropBackslashes (resolve s)

end DocBridge.Markdown.Entity
