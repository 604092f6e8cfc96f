import DocBridge.Decimal.Binary64

/-!
# The shortest decimal of a double

A decimal reads back as a double when it lies in the interval of numbers that round to it, whose
ends belong to it exactly when the significand is even. The shortest decimal is looked for on ever
finer grids of one digit, two digits and so on. On each grid only the two neighbours of the double
can be in the interval, and the first grid that has one of them in it gives the answer: the nearer
one. Which one that is of two equally near is left to the format.
-/

namespace DocBridge.Decimal

/-- Which of two equally near decimals is taken: the one with an even last digit or the greater. -/
inductive Tie where
  | even
  | greater
deriving DecidableEq, Repr

/-- The number `digits * 10 ^ scale`. -/
structure Shortest where
  digits : Nat
  scale : Int
deriving DecidableEq, Repr

/-- How many decimal digits a natural number has, none for zero. -/
def digitCount (n : Nat) : Nat := if n = 0 then 0 else (Nat.toDigits 10 n).length

/-- The exponent of the leading decimal digit of a positive fraction. -/
def leadingExponent (num den : Nat) : Int :=
  if den ≤ num then digitCount (num / den) - 1
  else -(digitCount ((den + num - 1) / num - 1))

namespace Shortest

/-- The point of the grid of multiples of `10 ^ scale` that is taken for a double, if one reads back
as it. -/
def onGrid? (tie : Tie) (x : Binary64) (scale : Int) : Option Nat :=
  let unit : Int := x.exponent - 2
  let value := 4 * x.significand
  let low := if x.significand = Binary64.least ∧ -1074 < x.exponent then value - 1 else value - 2
  let high := value + 2
  let binary (n : Nat) : Nat := (n <<< unit.toNat) * Nat.pow 10 (-scale).toNat
  let decimal (n : Nat) : Nat := (n <<< (-unit).toNat) * Nat.pow 10 scale.toNat
  let inside (n : Nat) : Bool :=
    if x.significand % 2 = 0 then binary low ≤ decimal n && decimal n ≤ binary high
    else binary low < decimal n && decimal n < binary high
  let below := binary value / decimal 1
  let above := below + 1
  match inside below, inside above with
  | false, false => none
  | true, false => some below
  | false, true => some above
  | true, true =>
    let left := binary value - decimal below
    let right := decimal above - binary value
    if left < right then some below
    else if right < left then some above
    else if tie = .even ∧ below % 2 = 0 then some below
    else some above

/-- Tries a number of grids, each ten times as fine as the one before. -/
def search (tie : Tie) (x : Binary64) (scale : Int) : Nat → Shortest
  | 0 => ⟨0, 0⟩
  | grids + 1 =>
    match onGrid? tie x scale with
    | some digits => ⟨digits, scale⟩
    | none => search tie x (scale - 1) grids

/-- The shortest decimal that reads back as the double's magnitude. Seventeen digits are always
enough; the search begins one grid above the leading digit, where a power of ten just above the
double lies. -/
def ofBinary64 (tie : Tie) (x : Binary64) : Shortest :=
  if x.isZero then ⟨0, 0⟩
  else search tie x (leadingExponent x.fraction.1 x.fraction.2 + 1) 18

end Shortest

end DocBridge.Decimal
