import HttpKit.Decimal.Binary

/-!
# Rounding to a fixed number of places

The exact value is rounded, so a number that only looks like a tie in decimal is none; of a true
tie the even neighbour is taken.
-/

namespace HttpKit.Decimal

/-- The whole number nearest to `r`; of two, the even one. -/
def Ratio.round (r : Ratio) : Nat :=
  let whole := r.num / r.den
  let twice := 2 * (r.num % r.den)
  if twice < r.den then whole
  else if r.den < twice then whole + 1
  else whole + whole % 2

/-- `mantissa · 2 ^ exponent` in units of the last of `places` decimal places. -/
def fixedUnits (places : Nat) (mantissa : Nat) (exponent : Int) : Nat :=
  ((Ratio.scaleTwo mantissa exponent).scaleTen places).round

/-- A whole number of units with the point before its last `places` digits. -/
def pointed (places units : Nat) : String :=
  let fraction := (Nat.toDigits 10 (units % tenTo places))
  let padding := List.replicate (places - fraction.length) '0'
  if places = 0 then toString units
  else toString (units / tenTo places) ++ "." ++ String.ofList (padding ++ fraction)

/-- The number with `places` digits after the point. The sign is kept even of a zero. -/
def fixed (places : Nat) (x : Float) : String :=
  match Binary.ofFloat x with
  | .nan => "nan"
  | .infinity negative => if negative then "-inf" else "inf"
  | .finite negative m e =>
    (if negative then "-" else "") ++ pointed places (fixedUnits places m e)

/-- The floating-point number nearest to `x` rounded to `places` decimal places. -/
def roundTo (places : Nat) (x : Float) : Float :=
  match Binary.ofFloat x with
  | .finite negative m e =>
    let rounded := Float.ofScientific (fixedUnits places m e) true places
    if negative then -rounded else rounded
  | _ => x

end HttpKit.Decimal
