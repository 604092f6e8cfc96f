import DocBridge.Json.Value
import DocBridge.Text.Digits

/-!
# Reading JSON numbers

A numeral without fraction and exponent is an integer if it lies between `-2 ^ 63` and `2 ^ 64 -
1`, and every other numeral is a double; so is `-0`. The digits of a double are gathered into a
significand of 64 bits, those that no longer fit only count for the power of ten. The significand
is then multiplied or divided once by that power; below `10 ^ -308` the division takes several
steps.
-/

namespace DocBridge.Json.Numeral

/-- Appends digits to a significand while it stays below `2 ^ 64`, and gives back those left over.
-/
def gather (significand : Nat) : List Char → Nat × List Char
  | [] => (significand, [])
  | d :: rest =>
    let next := significand * 10 + Text.digitValue d
    if next < UInt64.size then gather next rest else (significand, d :: rest)

def powerOfTen? (n : Nat) : Option Binary64 := Binary64.ofDecimal? false 1 n

/-- Divides by a power of ten, in steps of at most `10 ^ 308`. -/
def lower? (x : Binary64) (places : Nat) : Option Binary64 :=
  if x.isZero then some x
  else if 308 < places then do lower? (← x.over? (← powerOfTen? 308)) (places - 308)
  else do x.over? (← powerOfTen? places)
termination_by places
decreasing_by omega

/-- The double for a significand and a power of ten; nothing when it is too large. -/
def scale? (significand : Nat) (power : Int) : Option Binary64 := do
  let x ← Binary64.ofNat? significand
  if power < 0 then lower? x power.natAbs
  else if x.isZero then some x
  else if power ≤ 308 then x.times? (← powerOfTen? power.natAbs)
  else none

/-- The digits after a point, of which there is at least one. Without a point there are none. -/
def fraction? : List Char → Option (List Char × List Char)
  | '.' :: rest =>
    match rest.span Char.isDigit with
    | ([], _) => none
    | parts => some parts
  | rest => some ([], rest)

/-- The exponent, of at least one digit; nothing stands for an absent one. -/
def exponent? (s : List Char) : Option (Option Int × List Char) :=
  match s with
  | e :: rest =>
    if e = 'e' ∨ e = 'E' then
      let (negative, rest) := match rest with
        | '-' :: rest => (true, rest)
        | '+' :: rest => (false, rest)
        | rest => (false, rest)
      match rest.span Char.isDigit with
      | ([], _) => none
      | (digits, rest) =>
        let n : Int := Text.valueOf 10 digits
        some (some (if negative then -n else n), rest)
    else some (none, s)
  | [] => some (none, [])

def unsigned? (negative : Bool) (s : List Char) : Option (Number × List Char) := do
  let (whole, rest) := s.span Char.isDigit
  guard (whole = ['0'] ∨ (whole ≠ [] ∧ whole.head? ≠ some '0'))
  let (significand, excess) := gather 0 whole
  let (fraction, rest) ← fraction? rest
  let (exponent, rest) ← exponent? rest
  if excess = [] ∧ fraction = [] ∧ exponent = none ∧
      (if negative then 0 < significand ∧ significand ≤ 0x8000000000000000 else True) then
    some (.integer (if negative then -significand else significand), rest)
  else
    let (significand, unread) := gather significand fraction
    let power : Int := excess.length - (fraction.length - unread.length : Nat) + exponent.getD 0
    let x ← scale? significand power
    some (.real (if negative then x.negate else x), rest)

/-- The number at the front of a text and what follows it. -/
def read? : List Char → Option (Number × List Char)
  | '-' :: rest => unsigned? true rest
  | s => unsigned? false s

end DocBridge.Json.Numeral
