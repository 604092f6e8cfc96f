import DocBridge.Config.Value
import DocBridge.Text.Ascii
import DocBridge.Text.Scanner

/-!
# Keys

A key leads to a value: a name, then more names after points and positions in brackets, where a
negative position counts from the end. Setting a value makes what is missing on the way and replaces
what is in the way. Setting a table sets its entries one by one and keeps the others. Names do not
distinguish case.
-/

namespace DocBridge.Config

inductive Step where
  | name (name : String)
  | position (n : Int)
deriving DecidableEq, Repr

structure Key where
  /-- All steps but the last. -/
  way : List Step
  last : Step
deriving DecidableEq, Repr

/-! ## Reading -/

namespace Key

open Text Text.Scanner

def isNameCharacter (c : Char) : Bool := c.isAlphanum || c = ' ' || c = '_' || c = '-'

def readName : Scanner Step := return .name (String.ofList (← takeWhile1 isNameCharacter))

def readPosition : Scanner Step := do
  let _ ← takeWhile isSpaceOrTab
  let negative ← accept "-"
  let n : Int := valueOf 10 (← takeWhile1 Char.isDigit)
  guard (n < 0x8000000000000000 ∨ (negative ∧ n = 0x8000000000000000))
  let _ ← takeWhile isSpaceOrTab
  expect "]"
  return .position (if negative then -n else n)

/-- The steps after one that has been read. -/
def readSteps (last : Step) : (count : Nat) → Scanner Key
  | 0 => return ⟨[], last⟩
  | count + 1 => do
    if ← atEnd then return ⟨[], last⟩
    let step ← if ← accept "." then readName else do
      expect "["
      readPosition
    let key ← readSteps step count
    return { key with way := last :: key.way }

def ofText? (s : String) : Option Key :=
  readAll? (do readSteps (← readName) s.length) s.toList

end Key

/-! ## Setting -/

namespace Value

def entries : Value → Dictionary Value
  | table entries => entries
  | _ => []

def items : Value → List Value
  | list items => items
  | _ => []

mutual

/-- Sets an entry. -/
def set (name : String) : Value → Value → Value
  | table incoming, root =>
    let name := Text.lower name
    let inner := (root.entries.find? name).getD (table [])
    table (root.entries.insert name (setAll incoming inner))
  | v, root => table (root.entries.insert (Text.lower name) v)

def setAll : List (String × Value) → Value → Value
  | [], root => root
  | (name, v) :: rest, root => setAll rest (set name v root)

end

/-- Where a position is in a list of some length. One before the beginning is nowhere. -/
def place? (length : Nat) (n : Int) : Option Nat :=
  if 0 ≤ n then some n.toNat else if n.natAbs ≤ length then some (length - n.natAbs) else none

/-- Changes the item at a position, in a list that is filled up with nulls to hold it. -/
def changeItem (f : Value → Value) (n : Int) (v : Value) : Value :=
  match place? v.items.length n with
  | none => v
  | some i =>
    let items := v.items ++ List.replicate (i + 1 - v.items.length) null
    list (items.modify i f)

def change (f : Value → Value) : List Step → Value → Value
  | [], v => f v
  | .name name :: way, v =>
    let name := Text.lower name
    table (v.entries.insert name (change f way ((v.entries.find? name).getD null)))
  | .position n :: way, v => changeItem (change f way) n v

/-- Sets the value that a key leads to. -/
def setAt (root : Value) (key : Key) (v : Value) : Value :=
  match key.last with
  | .name name => change (set name v) key.way root
  | .position n => change (changeItem (fun _ => v) n) key.way root

/-- Sets the entries of a table. A name that is a key leads to where it says. -/
def merge (incoming : Dictionary Value) (root : Value) : Value :=
  incoming.foldl (fun root (name, v) =>
    match Key.ofText? name with
    | some key => root.setAt key v
    | none => set name v root) root

end Value

end DocBridge.Config
