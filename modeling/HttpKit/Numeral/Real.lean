import HttpKit.Numeral.Whole

/-!
# Floating-point numbers in a text

Digits with a point somewhere and a power of ten behind, or a name of infinity or of no number.
The result is the nearest floating-point number.
-/

namespace HttpKit.Numeral

/-- A decimal as it is written: all its digits and the power of ten of the last one. -/
structure Scientific where
  digits : List Char
  exponent : Int

/-- The nearest floating-point number. Beyond the range of exponents it is infinity or zero,
without computing the power. -/
def Scientific.toFloat (d : Scientific) : Float :=
  let significant := d.digits.dropWhile (· = '0')
  let magnitude := significant.length + d.exponent
  if significant.isEmpty then 0.0
  else if 400 < magnitude then 1.0 / 0.0
  else if magnitude < -400 then 0.0
  else Float.ofScientific (valueOf significant) (d.exponent < 0) d.exponent.natAbs

/-- The power of ten behind the digits: nothing, or `e`, a sign and digits to the end. -/
def power? : List Char → Option Int
  | [] => some 0
  | c :: rest =>
    if c = 'e' ∨ c = 'E' then
      let (negative, digits) := splitSign rest
      if !digits.isEmpty && digits.all isAsciiDigit then
        some (if negative then -(valueOf digits : Int) else valueOf digits)
      else none
    else none

/-- Digits, point, digits, power: at least one digit before the power. -/
def scientific? (cs : List Char) : Option Scientific :=
  let (integer, rest) := cs.span isAsciiDigit
  let (fraction, rest) :=
    match rest with
    | '.' :: rest => rest.span isAsciiDigit
    | _ => ([], rest)
  if integer.isEmpty && fraction.isEmpty then none
  else (power? rest).map fun e => ⟨integer ++ fraction, e - fraction.length⟩

/-- The names of the numbers that have no digits. -/
def named? (cs : List Char) : Option Float :=
  match String.ofList (cs.map Char.toLower) with
  | "inf" | "infinity" => some (1.0 / 0.0)
  | "nan" => some (0.0 / 0.0)
  | _ => none

/-- Removes underscores that stand between digits; `none` if one stands elsewhere. -/
def dropUnderscores (cs : List Char) : Option (List Char) :=
  let neighbours := ('.' :: cs).zip (cs.zip (cs.tail ++ ['.']))
  let fits := neighbours.all fun (left, c, right) =>
    c != '_' || (isAsciiDigit left && isAsciiDigit right)
  if fits then some (cs.filter (· ≠ '_')) else none

/-- Reads a floating-point number. -/
def real (s : String) : Except NumeralError Float :=
  let value? := do
    let cs ← dropUnderscores (normalise s)
    let (negative, body) := splitSign cs
    let x ← named? body <|> (scientific? body).map Scientific.toFloat
    pure (if negative then -x else x)
  match value? with
  | some x => .ok x
  | none => .error (.notReal s)

end HttpKit.Numeral
