import HttpKit.Text.Quoted

/-!
# What can be wrong with a number in a text
-/

namespace HttpKit

/-- Why a text is not read as a number. -/
inductive NumeralError where
  /-- The text is no whole number. -/
  | notWhole (text : String)
  /-- The text is no number. -/
  | notReal (text : String)
  /-- A whole number of more digits than are read. -/
  | tooLong (digits : Nat)
  deriving DecidableEq, Repr

/-- The most digits of a whole number that are read. -/
def digitLimit : Nat := 4300

/-- What is said about it. The text of a faulty whole number is shown up to 200 characters. -/
def NumeralError.message : NumeralError → String
  | .notWhole text =>
    "invalid literal for int() with base 10: "
      ++ String.ofList ((Text.quoted text).toList.take 200)
  | .notReal text => "could not convert string to float: " ++ Text.quoted text
  | .tooLong digits =>
    s!"Exceeds the limit ({digitLimit} digits) for integer string conversion: value has {digits} "
      ++ "digits; use sys.set_int_max_str_digits() to increase the limit"

end HttpKit
