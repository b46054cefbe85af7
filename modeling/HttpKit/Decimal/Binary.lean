/-!
# Floating-point numbers as exact fractions

A finite floating-point number is `mantissa · 2 ^ exponent`, with a sign of its own.
-/

namespace HttpKit.Decimal

/-- The powers of two. -/
def twoTo (n : Nat) : Nat := Nat.pow 2 n

/-- The powers of ten. -/
def tenTo (n : Nat) : Nat := Nat.pow 10 n

/-- A floating-point number taken apart. -/
inductive Binary where
  | nan
  | infinity (negative : Bool)
  | finite (negative : Bool) (mantissa : Nat) (exponent : Int)

/-- Takes a number apart by its bits: sign, eleven bits of exponent, fifty-two of mantissa. -/
def Binary.ofFloat (x : Float) : Binary :=
  let bits := x.toBits.toNat
  let negative : Bool := bits / twoTo 63 = 1
  let biased : Nat := bits / twoTo 52 % twoTo 11
  let fraction := bits % twoTo 52
  if biased = twoTo 11 - 1 then
    if fraction = 0 then .infinity negative else .nan
  else if biased = 0 then .finite negative fraction (-1074)
  else .finite negative (fraction + twoTo 52) ((biased : Int) - 1075)

/-- A non-negative fraction. -/
structure Ratio where
  num : Nat
  den : Nat

/-- `n · 2 ^ e`. -/
def Ratio.scaleTwo (n : Nat) (e : Int) : Ratio := ⟨n * twoTo e.toNat, twoTo (-e).toNat⟩

/-- `r · 10 ^ e`. -/
def Ratio.scaleTen (r : Ratio) (e : Int) : Ratio :=
  ⟨r.num * tenTo e.toNat, r.den * tenTo (-e).toNat⟩

/-- `a ≤ b`. -/
def Ratio.le (a b : Ratio) : Bool := a.num * b.den ≤ b.num * a.den

/-- `a < b`. -/
def Ratio.lt (a b : Ratio) : Bool := a.num * b.den < b.num * a.den

end HttpKit.Decimal
