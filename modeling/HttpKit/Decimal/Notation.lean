import HttpKit.Decimal.Shortest

/-!
# Numbers in plain and scientific notation

How a floating-point number is written out: the shortest decimal that reads back, with the point
where it belongs while that is near, and with a power of ten otherwise.
-/

namespace HttpKit.Decimal

/-- The choices of a notation. -/
structure Style where
  /-- The point is written in place while its position lies above this … -/
  lowest : Int
  /-- … and not beyond this. -/
  highest : Int
  nan : String
  infinity : String

/-- Plain notation from 0.0001 up to below 10^16. -/
def Style.plain : Style := ⟨-4, 16, "nan", "inf"⟩

/-- The digits before the power of ten, a point after the first if there are more. -/
def significand : List Char → List Char
  | [] => []
  | [c] => [c]
  | c :: rest => c :: '.' :: rest

/-- A power of ten with its sign and at least two digits. -/
def power (e : Int) : List Char :=
  let digits := Nat.toDigits 10 e.natAbs
  'e' :: (if e < 0 then '-' else '+') :: (List.replicate (2 - digits.length) '0' ++ digits)

/-- The digits with the point at `position`, in place or by a power of ten. A whole number ends in
`.0`. -/
def Style.layout (style : Style) (digits : List Char) (position : Int) : List Char :=
  if style.lowest < position ∧ position ≤ style.highest then
    if position ≤ 0 then '0' :: '.' :: (List.replicate (-position).toNat '0' ++ digits)
    else
      let whole := digits.take position.toNat
      let fraction := digits.drop position.toNat
      whole ++ List.replicate (position.toNat - whole.length) '0'
        ++ '.' :: (if fraction.isEmpty then ['0'] else fraction)
  else significand digits ++ power (position - 1)

/-- Digits up to the last that is not zero. -/
def withoutTrailingZeros (digits : List Char) : List Char :=
  (digits.reverse.dropWhile (· = '0')).reverse

/-- The number in the given notation. -/
def Style.render (style : Style) (x : Float) : String :=
  match Binary.ofFloat x with
  | .nan => style.nan
  | .infinity negative => (if negative then "-" else "") ++ style.infinity
  | .finite negative m e =>
    let body :=
      if m = 0 then ['0', '.', '0']
      else
        let d := shortest m e
        let digits := Nat.toDigits 10 d.digits
        style.layout (withoutTrailingZeros digits) (d.exponent + digits.length)
    (if negative then "-" else "") ++ String.ofList body

/-- The number in plain notation. -/
def render (x : Float) : String := Style.plain.render x

end HttpKit.Decimal
