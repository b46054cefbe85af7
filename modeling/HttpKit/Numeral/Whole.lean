import HttpKit.Numeral.Error
import HttpKit.Text.Blank
import HttpKit.Text.Digit

/-!
# Whole numbers in a text

A sign, then digits of any script, with single underscores between them, then nothing else but
blanks around the whole.
-/

namespace HttpKit.Numeral

/-- A character as a number is read: digits of any script as ASCII digits, blanks beyond ASCII as
spaces. What is neither is not part of any number. -/
def normalChar (c : Char) : Char :=
  if c.toNat < 0x7F then c
  else if Text.isBlank c then ' '
  else match Text.digitValue? c with
    | some d => Char.ofNat ('0'.toNat + d)
    | none => '?'

/-- Blanks around a number: the space and the ASCII controls that move the position. -/
def isPadding (c : Char) : Bool := c = ' ' || (0x9 ≤ c.toNat && c.toNat ≤ 0xD)

/-- The characters of a number without the blanks around it. -/
def normalise (s : String) : List Char := Text.trimBy isPadding (s.toList.map normalChar)

/-- ASCII digit. -/
def isAsciiDigit (c : Char) : Bool := '0' ≤ c && c ≤ '9'

/-- The value of ASCII digits. -/
def valueOf (digits : List Char) : Nat :=
  digits.foldl (fun n c => 10 * n + (c.toNat - '0'.toNat)) 0

/-- Splits off a sign; `true` is a minus. -/
def splitSign : List Char → Bool × List Char
  | '-' :: rest => (true, rest)
  | '+' :: rest => (false, rest)
  | cs => (false, cs)

/-- Whether every underscore stands between two digits. -/
def underscoresFit (cs : List Char) : Bool :=
  cs.head? != some '_' && cs.getLast? != some '_'
    && (cs.zip cs.tail).all fun p => p != ('_', '_')

/-- Reads a whole number. A row of digits that is too long is refused whatever follows it. -/
def whole (s : String) : Except NumeralError Int :=
  let (negative, body) := splitSign (normalise s)
  let (row, rest) := body.span fun c => isAsciiDigit c || c = '_'
  let digits := row.filter isAsciiDigit
  if !underscoresFit row || digits.isEmpty then .error (.notWhole s)
  else if digitLimit < digits.length then .error (.tooLong digits.length)
  else if !rest.isEmpty then .error (.notWhole s)
  else
    let n : Int := valueOf digits
    .ok (if negative then -n else n)

end HttpKit.Numeral
