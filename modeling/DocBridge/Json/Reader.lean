import DocBridge.Json.Numeral
import DocBridge.Text.Ascii

/-!
# Reading JSON

The reader takes the strict grammar: blanks are space, tab, line feed and carriage return, strings
hold no raw control characters, an escaped surrogate has its partner right after it. Arrays and
objects may nest only as deep as the caller allows. Of members with one key the last counts.

Every scanner works on the characters that remain and gives back those it leaves.
-/

namespace DocBridge.Json

namespace Reader

def skipBlanks (s : List Char) : List Char := s.dropWhile Text.isSpacing

def hexCode? (a b c d : Char) : Option Nat :=
  if [a, b, c, d].all Text.isHexDigit then some (Text.valueOf 16 [a, b, c, d]) else none

def isHighSurrogate (n : Nat) : Bool := 0xD800 ≤ n && n < 0xDC00

def isLowSurrogate (n : Nat) : Bool := 0xDC00 ≤ n && n < 0xE000

/-- What a letter after a backslash stands for, `u` apart. -/
def simpleEscape? : Char → Option Char
  | '"' => some '"'
  | '\\' => some '\\'
  | '/' => some '/'
  | 'b' => some '\x08'
  | 'f' => some '\x0c'
  | 'n' => some '\n'
  | 'r' => some '\r'
  | 't' => some '\t'
  | _ => none

/-- The rest of a string up to its closing quote. `high` is an escaped high surrogate that waits for
its partner. -/
def stringBody (high : Option Nat) : List Char → Option (List Char × List Char)
  | [] => none
  | '\\' :: 'u' :: a :: b :: c :: d :: rest =>
    match hexCode? a b c d, high with
    | none, _ => none
    | some n, none =>
      if isHighSurrogate n then stringBody (some n) rest
      else if isLowSurrogate n then none
      else (stringBody none rest).map fun (s, left) => (Char.ofNat n :: s, left)
    | some n, some h =>
      if isLowSurrogate n then
        (stringBody none rest).map fun (s, left) =>
          (Char.ofNat (0x10000 + (h - 0xD800) * 0x400 + (n - 0xDC00)) :: s, left)
      else none
  | '\\' :: e :: rest =>
    match simpleEscape? e, high with
    | some c, none => (stringBody none rest).map fun (s, left) => (c :: s, left)
    | _, _ => none
  | '"' :: rest => if high.isNone then some ([], rest) else none
  | c :: rest =>
    if high.isSome ∨ c.toNat < 0x20 ∨ c = '\\' then none
    else (stringBody none rest).map fun (s, left) => (c :: s, left)

/-- A string from its opening quote. -/
def string? : List Char → Option (String × List Char)
  | '"' :: rest => (stringBody none rest).map fun (s, left) => (String.ofList s, left)
  | _ => none

def scalar? (s : List Char) : Option (Value × List Char) :=
  match s with
  | 'n' :: 'u' :: 'l' :: 'l' :: rest => some (.null, rest)
  | 't' :: 'r' :: 'u' :: 'e' :: rest => some (.boolean true, rest)
  | 'f' :: 'a' :: 'l' :: 's' :: 'e' :: rest => some (.boolean false, rest)
  | '"' :: _ => (string? s).map fun (t, rest) => (.string t, rest)
  | _ => (Numeral.read? s).map fun (n, rest) => (.number n, rest)

/-- Items separated by commas up to the closing character, at most as many as the count. -/
def sequence {α : Type} (item : List Char → Option (α × List Char)) (close : Char) :
    Nat → List Char → Option (List α × List Char)
  | 0, _ => none
  | count + 1, s => do
    let (first, rest) ← item (skipBlanks s)
    match skipBlanks rest with
    | ',' :: rest =>
      let (others, rest) ← sequence item close count rest
      some (first :: others, rest)
    | c :: rest => if c = close then some ([first], rest) else none
    | [] => none

/-- What stands after an opening bracket: items up to the closing one, or the closing one at once.
-/
def enclosed {α : Type} (item : List Char → Option (α × List Char)) (close : Char) (count : Nat)
    (s : List Char) : Option (List α × List Char) :=
  match skipBlanks s with
  | c :: rest => if c = close then some ([], rest) else sequence item close count (c :: rest)
  | [] => none

/-- A member of an object: a key, a colon, a value. -/
def member? (value : List Char → Option (Value × List Char)) (s : List Char) :
    Option ((String × Value) × List Char) := do
  let (key, rest) ← string? s
  match skipBlanks rest with
  | ':' :: rest =>
    let (v, rest) ← value (skipBlanks rest)
    some ((key, v), rest)
  | _ => none

/-- A value whose arrays and objects nest at most to the given depth and have at most `count` items
each. -/
def value? (count : Nat) : (depth : Nat) → List Char → Option (Value × List Char)
  | 0, s => scalar? s
  | depth + 1, s =>
    match s with
    | '[' :: rest =>
      (enclosed (value? count depth) ']' count rest).map fun (items, left) => (.array items, left)
    | '\x7b' :: rest =>
      (enclosed (member? (value? count depth)) '\x7d' count rest).map fun (members, left) =>
        (.ofMembers members, left)
    | _ => scalar? s

end Reader

/-- How deep arrays and objects may nest in a document. -/
def documentDepth : Nat := 127

/-- The value a text holds, nested at most to the given depth, blanks around it allowed. -/
def read? (depth : Nat) (text : String) : Option Value := do
  let s := text.toList
  let (v, rest) ← Reader.value? s.length depth (Reader.skipBlanks s)
  if Reader.skipBlanks rest = [] then some v else none

end DocBridge.Json
