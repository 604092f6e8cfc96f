import DocBridge.Decimal.Shortest

/-!
# Writing a decimal

A decimal is written positionally, with a point among or around its digits, or with one digit before
the point and an exponent. A format says which exponents it writes positionally, whether an
integral number shows a point, and which of two equally near decimals it takes.
-/

namespace DocBridge.Decimal

/-- The choices a format makes for a decimal whose leading digit has a given exponent. -/
structure Layout where
  /-- Whether a number with this leading exponent is written without an exponent mark. -/
  positional : Int → Bool
  /-- Whether an integral number ends in `.0`. -/
  showsPoint : Bool
  tie : Tie

namespace Layout

def zeros (n : Nat) : String := String.ofList (List.replicate n '0')

/-- Digits with the point after the digit of exponent zero. -/
def placePoint (style : Layout) (digits : List Char) (leading : Int) : String :=
  if leading < 0 then "0." ++ zeros (-leading - 1).toNat ++ String.ofList digits
  else
    let whole := leading.toNat + 1
    let integral := String.ofList (digits.take whole) ++ zeros (whole - digits.length)
    match digits.drop whole with
    | [] => if style.showsPoint then integral ++ ".0" else integral
    | fraction => integral ++ "." ++ String.ofList fraction

/-- One digit before the point and an exponent with its sign. -/
def withExponent (digits : List Char) (leading : Int) : String :=
  let mark := if 0 ≤ leading then "e+" else "e-"
  let exponent := toString leading.natAbs
  match digits with
  | [] => "0" ++ mark ++ exponent
  | [digit] => digit.toString ++ mark ++ exponent
  | digit :: rest => digit.toString ++ "." ++ String.ofList rest ++ mark ++ exponent

def writeMagnitude (style : Layout) (number : Shortest) : String :=
  let digits := Nat.toDigits 10 number.digits
  let leading : Int := number.scale + digits.length - 1
  if style.positional leading then style.placePoint digits leading else withExponent digits leading

/-- The text of a double: a sign when it is negative, zero included, and its shortest decimal. -/
def write (style : Layout) (x : Binary64) : String :=
  (if x.negative then "-" else "") ++ style.writeMagnitude (.ofBinary64 style.tie x)

end Layout

end DocBridge.Decimal
