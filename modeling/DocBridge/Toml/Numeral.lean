import DocBridge.Toml.Value

/-!
# Reading numbers

An integer is decimal with an optional sign, or hexadecimal, octal or binary without one, and fits
in 64 bits. A float has a fraction or an exponent and is the nearest double; one above the largest
double is refused, one below the smallest is negative infinity. An underscore may stand between
two digits.
-/

namespace DocBridge.Toml.Numeral

open Text Text.Scanner

def isOctalDigit (c : Char) : Bool := '0' ≤ c && c ≤ '7'

def isBinaryDigit (c : Char) : Bool := c = '0' || c = '1'

/-- Digits of a kind, without the underscores that may stand between two of them. -/
def digits (p : Char → Bool) : Scanner (List Char) := do
  let taken ← takeWhile1 fun c => p c || c = '_'
  guard (taken.head? ≠ some '_' ∧ taken.getLast? ≠ some '_')
  guard ((taken.zip (taken.drop 1)).all fun (c, d) => c ≠ '_' || d ≠ '_')
  return taken.filter (· ≠ '_')

def inRange (n : Int) : Bool := -0x8000000000000000 ≤ n && n < 0x8000000000000000

/-- An integer after the mark of its base. -/
def based (base : Nat) (p : Char → Bool) : Scanner Value := do
  let n := valueOf base (← digits p)
  guard (inRange n)
  return .integer n

def sign : Scanner Bool := do
  if ← accept "-" then return true
  let _ ← accept "+"
  return false

/-- The digits of a decimal without a useless zero in front. -/
def whole : Scanner (List Char) := do
  match ← peek? with
  | some '0' => return [← next]
  | _ => digits Char.isDigit

/-- The digits after a point; none without a point. -/
def fraction : Scanner (List Char) := do
  if ← accept "." then digits Char.isDigit else return []

def exponent? : Scanner (Option Int) := do
  match ← peek? with
  | some 'e' | some 'E' =>
    let _ ← next
    let negative ← sign
    let n : Int := valueOf 10 (← digits Char.isDigit)
    return some (if negative then -n else n)
  | _ => return none

/-- The double nearest to `significand * 10 ^ scale`. A number far beyond the range of doubles is
not worked out. -/
def real? (negative : Bool) (significand : Nat) (scale : Int) : Option Real :=
  let overflow := if negative then some (.infinite true) else none
  let size : Int := (Nat.toDigits 10 significand).length + scale
  if significand = 0 ∨ size < -400 then some (.finite (.zero negative))
  else if 400 < size then overflow
  else
    match Binary64.ofDecimal? negative significand scale with
    | some x => some (.finite x)
    | none => overflow

def decimal : Scanner Value := do
  let negative ← sign
  if ← accept "inf" then return .real (.infinite negative)
  if ← accept "nan" then return .real .notNumber
  let whole ← whole
  let fraction ← fraction
  let exponent? ← exponent?
  if fraction = [] ∧ exponent? = none then
    let n : Int := valueOf 10 whole
    let n := if negative then -n else n
    guard (inRange n)
    return .integer n
  else
    match real? negative (valueOf 10 (whole ++ fraction))
        (exponent?.getD 0 - fraction.length) with
    | some x => return .real x
    | none => failure

def read : Scanner Value := do
  if ← accept "0x" then based 16 isHexDigit
  else if ← accept "0o" then based 8 isOctalDigit
  else if ← accept "0b" then based 2 isBinaryDigit
  else decimal

end DocBridge.Toml.Numeral
