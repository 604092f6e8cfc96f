import DocBridge.Text.Digits
import DocBridge.Text.Scanner

/-!
# Dates and times

A date, a time of day, or both, then perhaps with the offset from universal time. Seconds go to 60
and their fraction to nine places; places beyond are dropped. A text that is a moment as a whole may
go a little farther than a moment in a document: to hour 24, and with an offset of up to a day whose
minutes need not be less than an hour.
-/

namespace DocBridge.Toml

open Text Text.Scanner

structure Date where
  year : Nat
  month : Nat
  day : Nat
deriving DecidableEq, Repr

structure Time where
  hour : Nat
  minute : Nat
  second : Nat
  nanosecond : Nat
deriving DecidableEq, Repr

inductive Offset where
  | universal
  | minutes (n : Int)
deriving DecidableEq, Repr

inductive Moment where
  | date (date : Date)
  | time (time : Time)
  | dateTime (date : Date) (time : Time) (offset? : Option Offset)
deriving DecidableEq, Repr

namespace Date

def daysInMonth (year month : Nat) : Nat :=
  if month = 2 then
    if year % 4 = 0 ∧ (year % 100 ≠ 0 ∨ year % 400 = 0) then 29 else 28
  else if month = 4 ∨ month = 6 ∨ month = 9 ∨ month = 11 then 30
  else 31

def text (d : Date) : String :=
  padded 4 d.year ++ "-" ++ padded 2 d.month ++ "-" ++ padded 2 d.day

end Date

namespace Time

def text (t : Time) : String :=
  let fraction :=
    if t.nanosecond = 0 then ""
    else "." ++ String.ofList
      ((padded 9 t.nanosecond).toList.reverse.dropWhile (· = '0')).reverse
  padded 2 t.hour ++ ":" ++ padded 2 t.minute ++ ":" ++ padded 2 t.second ++ fraction

end Time

def Offset.text : Offset → String
  | universal => "Z"
  | minutes n =>
    (if n < 0 then "-" else "+") ++ padded 2 (n.natAbs / 60) ++ ":" ++ padded 2 (n.natAbs % 60)

namespace Moment

def text : Moment → String
  | date d => d.text
  | time t => t.text
  | dateTime d t offset? => d.text ++ "T" ++ t.text ++ (offset?.map Offset.text).getD ""

/-! ## Reading -/

/-- How far the parts of a moment go. -/
structure Bounds where
  hour : Nat
  offsetHours : Nat
  offsetMinutes : Nat
  /-- The greatest offset, in minutes. -/
  offset : Nat

def Bounds.inDocument : Bounds := ⟨23, 23, 59, 23 * 60 + 59⟩

def Bounds.inText : Bounds := ⟨24, 99, 99, 24 * 60⟩

/-- A number of so many digits between two bounds. -/
def number (width low high : Nat) : Scanner Nat := do
  let n := valueOf 10 (← exactly width Char.isDigit)
  guard (low ≤ n ∧ n ≤ high)
  return n

def readDate : Scanner Date := do
  let year ← number 4 0 9999
  expect "-"
  let month ← number 2 1 12
  expect "-"
  let day ← number 2 1 (Date.daysInMonth year month)
  return ⟨year, month, day⟩

/-- The nanoseconds of a fraction of a second. -/
def readFraction : Scanner Nat := do
  if ← accept "." then
    let digits := (← takeWhile1 Char.isDigit).take 9
    return valueOf 10 digits * Nat.pow 10 (9 - digits.length)
  else return 0

def readTime (bounds : Bounds) : Scanner Time := do
  let hour ← number 2 0 bounds.hour
  expect ":"
  let minute ← number 2 0 59
  expect ":"
  let second ← number 2 0 60
  return ⟨hour, minute, second, ← readFraction⟩

def readOffset (bounds : Bounds) : Scanner Offset := do
  let c ← next
  if c = 'Z' ∨ c = 'z' then return .universal
  guard (c = '+' ∨ c = '-')
  let hours ← number 2 0 bounds.offsetHours
  expect ":"
  let minutes := hours * 60 + (← number 2 0 bounds.offsetMinutes)
  guard (minutes ≤ bounds.offset)
  return .minutes (if c = '-' then -minutes else minutes)

def read (bounds : Bounds) : Scanner Moment := do
  match ← attempt readDate with
  | none => return .time (← readTime bounds)
  | some d =>
    let time? ← attempt do
      let _ ← one fun c => c = 'T' || c = 't' || c = ' '
      readTime bounds
    match time? with
    | none => return .date d
    | some t => return .dateTime d t (← attempt (readOffset bounds))

/-- The moment that a whole text spells. -/
def ofText? (s : String) : Option Moment := readAll? (read .inText) s.toList

end Moment

end DocBridge.Toml
