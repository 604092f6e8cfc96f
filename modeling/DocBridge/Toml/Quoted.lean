import DocBridge.Text.Ascii
import DocBridge.Text.Digits
import DocBridge.Text.Scanner

/-!
# Strings

A basic string stands between quotation marks and has escapes, a literal string stands between
apostrophes and has none. Either may be written over several lines between three marks; a line
break right after the opening marks is dropped, and one or two marks more may stand before the
closing ones. In a basic string of several lines a backslash at the end of a line removes the
break and all blanks after it.
-/

namespace DocBridge.Toml.Quoted

open Text Text.Scanner

/-- A character that may stand in a string as it is, marks and backslashes apart. -/
def isPlain (c : Char) : Bool := c = '\t' || (0x20 ≤ c.toNat && c.toNat ≠ 0x7F)

/-- The character whose number is given by so many hexadecimal digits. -/
def hexCharacter (width : Nat) : Scanner Char := do
  let n := valueOf 16 (← exactly width isHexDigit)
  guard n.isValidChar
  return Char.ofNat n

/-- What an escape stands for, after its backslash. -/
def escape : Scanner Char := do
  match ← next with
  | 'b' => return '\x08'
  | 't' => return '\t'
  | 'n' => return '\n'
  | 'f' => return '\x0c'
  | 'r' => return '\r'
  | '"' => return '"'
  | '\\' => return '\\'
  | 'u' => hexCharacter 4
  | 'U' => hexCharacter 8
  | _ => failure

/-- A line break, if there is one here. -/
def lineBreak : Scanner Bool := do
  if ← accept "\n" then return true
  accept "\x0d\n"

/-- What is left after blanks and line breaks. -/
def afterBlanks : List Char → List Char
  | '\n' :: rest => afterBlanks rest
  | '\x0d' :: '\n' :: rest => afterBlanks rest
  | c :: rest => if isSpaceOrTab c then afterBlanks rest else c :: rest
  | [] => []

/-- The line break that an escaping backslash removes, with all blanks and breaks after it. -/
def joinedLines : Scanner Unit := do
  let _ ← takeWhile isSpaceOrTab
  guard (← lineBreak)
  modify afterBlanks

/-- The rest of a string on one line. -/
def lineBody (mark : Char) (escapes : Bool) : (count : Nat) → Scanner (List Char)
  | 0 => failure
  | count + 1 => do
    let c ← next
    if c = mark then return []
    let c ← if c = '\\' ∧ escapes then escape else do
      guard (isPlain c)
      pure c
    return c :: (← lineBody mark escapes count)

/-- The marks at this place: those that belong to the string, and whether it ends with them. -/
def marks (mark : Char) : Scanner (List Char × Bool) := do
  let run := ((← get).takeWhile (· = mark)).take 5
  modify (·.drop run.length)
  if run.length < 3 then return (run, false) else return (run.drop 3, true)

/-- The rest of a string over several lines. -/
def linesBody (mark : Char) (escapes : Bool) : (count : Nat) → Scanner (List Char)
  | 0 => failure
  | count + 1 => do
    match ← peek? with
    | none => failure
    | some c =>
      if c = mark then
        let (kept, closed) ← marks mark
        if closed then return kept
        return kept ++ (← linesBody mark escapes count)
      if ← lineBreak then return '\n' :: (← linesBody mark escapes count)
      let _ ← next
      if c = '\\' ∧ escapes then
        match ← attempt joinedLines with
        | some () => linesBody mark escapes count
        | none =>
          let c ← escape
          return c :: (← linesBody mark escapes count)
      else
        guard (isPlain c)
        return c :: (← linesBody mark escapes count)

/-- A string on one line, from its opening mark. -/
def line (mark : Char) (escapes : Bool) : Scanner String := do
  let _ ← one (· = mark)
  return String.ofList (← lineBody mark escapes (← get).length)

def string (mark : Char) (escapes : Bool) : Scanner String := do
  if ← accept (String.ofList [mark, mark, mark]) then
    let _ ← lineBreak
    return String.ofList (← linesBody mark escapes (← get).length)
  else line mark escapes

/-- A string in any of its forms. -/
def read : Scanner String := do
  match ← peek? with
  | some '"' => string '"' true
  | _ => string '\'' false

end DocBridge.Toml.Quoted
