/-!
# Double precision numbers as exact fractions

A finite double is a sign, a significand of at most 53 bits and a power of two, in the one form in
which the significand is as large as the least exponent lets it be. Two doubles of one sign are thus
the same number exactly when they are the same value of the type.

Arithmetic is exact on fractions and rounds once at the end, to the nearest double and to the one
with an even significand when two are equally near.
-/

namespace DocBridge

structure Binary64 where
  negative : Bool
  significand : Nat
  exponent : Int
  canonical : significand < 0x20000000000000 ∧
    (0x10000000000000 ≤ significand ∨ exponent = -1074) ∧ -1074 ≤ exponent ∧ exponent ≤ 971
deriving DecidableEq, Repr

namespace Binary64

def zero (negative : Bool) : Binary64 := ⟨negative, 0, -1074, by omega⟩

instance : Inhabited Binary64 := ⟨zero false⟩

/-- The least significand of 53 bits, which the doubles of all but the least exponent reach. -/
def least : Nat := 0x10000000000000

def isZero (x : Binary64) : Bool := x.significand == 0

def negate (x : Binary64) : Binary64 := { x with negative := !x.negative }

/-- Equality of the numbers: the two zeros are one number. -/
def same (x y : Binary64) : Bool := (x.isZero && y.isZero) || x == y

/-- The magnitude as a fraction of natural numbers, the second of them positive. -/
def fraction (x : Binary64) : Nat × Nat :=
  (x.significand <<< x.exponent.toNat, 1 <<< (-x.exponent).toNat)

/-- The natural number nearest to `num / den`; a half goes to the even neighbour. -/
def roundEven (num den : Nat) : Nat :=
  let q := num / den
  let r := num % den
  if 2 * r < den then q else if den < 2 * r then q + 1 else q + q % 2

/-- The double nearest to `num / den`, or nothing when that is beyond the largest one. -/
def nearest? (negative : Bool) (num den : Nat) : Option Binary64 :=
  if num = 0 then some (zero negative)
  else
    let scaled (e : Int) : Nat := roundEven (num <<< (-e).toNat) (den <<< e.toNat)
    let guess : Int := (Nat.log2 num : Int) - Nat.log2 den - 53
    let fits (e : Int) : Bool := num <<< (-e).toNat < 2 * least * (den <<< e.toNat)
    let tight : Int :=
      if fits guess then guess else if fits (guess + 1) then guess + 1 else guess + 2
    let e := max (-1074) tight
    let (m, e) := if scaled e = 2 * least then (least, e + 1) else (scaled e, e)
    if h : m < 0x20000000000000 ∧ (0x10000000000000 ≤ m ∨ e = -1074) ∧ -1074 ≤ e ∧ e ≤ 971 then
      some ⟨negative, m, e, h⟩
    else none

def ofNat? (n : Nat) : Option Binary64 := nearest? false n 1

/-- The double nearest to `digits * 10 ^ scale`. -/
def ofDecimal? (negative : Bool) (digits : Nat) (scale : Int) : Option Binary64 :=
  nearest? negative (digits * Nat.pow 10 scale.toNat) (Nat.pow 10 (-scale).toNat)

/-- The product, rounded; nothing when it is too large. -/
def times? (x y : Binary64) : Option Binary64 :=
  nearest? (x.negative != y.negative) (x.fraction.1 * y.fraction.1) (x.fraction.2 * y.fraction.2)

/-- The quotient by a number that is not zero, rounded; nothing when it is too large. -/
def over? (x y : Binary64) : Option Binary64 :=
  nearest? (x.negative != y.negative) (x.fraction.1 * y.fraction.2) (x.fraction.2 * y.fraction.1)

/-- The nearest integer; a half goes away from zero. -/
def roundHalfAway (x : Binary64) : Int :=
  let (num, den) := x.fraction
  let n : Int := (2 * num + den) / (2 * den)
  if x.negative then -n else n

end Binary64

end DocBridge
