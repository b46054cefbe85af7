import HttpKit.Decimal.Binary

/-!
# The shortest decimal that reads back

Of all decimals that lie nearer to a floating-point number than to its neighbours, the ones with
the fewest digits, and of these the nearest. For each number of digits only the two points of the
decimal grid around the number can qualify.
-/

namespace HttpKit.Decimal

/-- `digits · 10 ^ exponent`. -/
structure GridPoint where
  digits : Nat
  exponent : Int

/-- The decimals that read back as a number: those between `low` and `high`, and these two as well
if `closed`. -/
structure Interval where
  low : Ratio
  value : Ratio
  high : Ratio
  closed : Bool

/-- The interval of `mantissa · 2 ^ exponent`. It reaches half way to the neighbours; the one below
a power of two is nearer. The ends read back as the number with the even mantissa. -/
def Interval.ofBinary (mantissa : Nat) (exponent : Int) : Interval where
  low :=
    if mantissa = twoTo 52 ∧ -1074 < exponent then .scaleTwo (4 * mantissa - 1) (exponent - 2)
    else .scaleTwo (2 * mantissa - 1) (exponent - 1)
  value := .scaleTwo mantissa exponent
  high := .scaleTwo (2 * mantissa + 1) (exponent - 1)
  closed := mantissa % 2 = 0

/-- Whether the decimal reads back. -/
def Interval.holds (i : Interval) (d : GridPoint) : Bool :=
  let r := Ratio.scaleTen ⟨d.digits, 1⟩ d.exponent
  if i.closed then i.low.le r && r.le i.high else i.low.lt r && r.lt i.high

/-- The number of decimal digits of `n`. -/
def digitCount (n : Nat) : Nat := (Nat.toDigits 10 n).length

/-- The position of the point: the least `e` with `r < 10 ^ e`. -/
def Ratio.magnitude (r : Ratio) : Int :=
  let guess : Int := (digitCount r.num : Int) - digitCount r.den
  if r.lt (.scaleTen ⟨1, 1⟩ guess) then guess else guess + 1

/-- The decimal in the interval that is a multiple of `10 ^ exponent`, if there is one: the nearer
of the two around the value, and of two equally near the even one. -/
def Interval.onGrid (i : Interval) (exponent : Int) : Option GridPoint :=
  let scaled := i.value.scaleTen (-exponent)
  let lower := scaled.num / scaled.den
  let twice := 2 * (scaled.num % scaled.den)
  let lowerFirst := twice < scaled.den ∨ (twice = scaled.den ∧ lower % 2 = 0)
  let first := if lowerFirst then lower else lower + 1
  let second := if lowerFirst then lower + 1 else lower
  if i.holds ⟨first, exponent⟩ then some ⟨first, exponent⟩
  else if i.holds ⟨second, exponent⟩ then some ⟨second, exponent⟩
  else none

/-- The shortest decimal of a positive number. Seventeen digits always suffice. -/
def shortest (mantissa : Nat) (exponent : Int) : GridPoint :=
  let i := Interval.ofBinary mantissa exponent
  let magnitude := i.value.magnitude
  ((List.range 17).findSome? fun n => i.onGrid (magnitude - (n + 1 : Nat))).getD ⟨0, 0⟩

end HttpKit.Decimal
