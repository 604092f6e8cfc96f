/-!
# Scanners

A scanner reads something off the front of a sequence of characters and leaves the rest, or fails.
-/

namespace DocBridge.Text

abbrev Scanner := StateT (List Char) Option

namespace Scanner

def peek? : Scanner (Option Char) := return (← get).head?

def next : Scanner Char := fun s =>
  match s with
  | c :: rest => some (c, rest)
  | [] => none

/-- A character of a kind. -/
def one (p : Char → Bool) : Scanner Char := do
  let c ← next
  guard (p c)
  return c

/-- Exactly as many characters of a kind. -/
def exactly (count : Nat) (p : Char → Bool) : Scanner (List Char) := do
  let taken := (← get).take count
  guard (taken.length = count ∧ taken.all p)
  modify (·.drop count)
  return taken

def takeWhile (p : Char → Bool) : Scanner (List Char) := fun s => some (s.span p)

/-- Characters of a kind, one at least. -/
def takeWhile1 (p : Char → Bool) : Scanner (List Char) := do
  let taken ← takeWhile p
  guard (taken ≠ [])
  return taken

/-- Whether the text goes on like this, and if so passes over it. -/
def accept (expected : String) : Scanner Bool := fun s =>
  if expected.toList.isPrefixOf s then some (true, s.drop expected.length) else some (false, s)

def expect (expected : String) : Scanner Unit := do guard (← accept expected)

/-- What a scanner reads, if it can. -/
def attempt {α : Type} (scanner : Scanner α) : Scanner (Option α) := fun s =>
  match scanner s with
  | some (a, rest) => some (some a, rest)
  | none => some (none, s)

/-- Whether nothing is left. -/
def atEnd : Scanner Bool := return (← get).isEmpty

/-- What a scanner makes of a whole text. -/
def readAll? {α : Type} (scanner : Scanner α) (text : List Char) : Option α :=
  match scanner text with
  | some (a, []) => some a
  | _ => none

end Scanner

end DocBridge.Text
