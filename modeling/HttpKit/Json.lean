import HttpKit.Bytes.Latin1
import HttpKit.Decimal.Notation
import HttpKit.Text.Quoted

/-!
# Data

Values that come from outside and whose kind is not fixed: the data of a JSON body, a peer's
address, or whatever is handed over where a function was expected. Byte strings are among them
although JSON has none: writing one fails.
-/

namespace HttpKit

/-- A datum. The fields of an object are in the order in which they were first given. -/
inductive Json where
  | null
  | bool (b : Bool)
  | int (n : Int)
  | float (x : Float)
  | text (s : String)
  | bytes (bs : Bytes)
  | list (items : List Json)
  | object (fields : List (String × Json))

namespace Json

instance : Inhabited Json := ⟨null⟩

/-- The name of the datum's kind in messages. -/
def kindName : Json → String
  | null => "NoneType"
  | bool _ => "bool"
  | int _ => "int"
  | float _ => "float"
  | text _ => "str"
  | bytes _ => "bytes"
  | list _ => "list"
  | object _ => "dict"

/-- Bytes in a message: those that are no printable ASCII character as escapes. -/
def displayBytes (bs : Bytes) : String :=
  let cs := (Latin1.decode bs).toList
  let mark := Text.quoteMark cs
  let body := cs.flatMap fun c =>
    if c.toNat < 0x7F then Text.quoteChar mark c else '\\' :: 'x' :: Text.hexDigits 2 c.toNat
  String.ofList ('b' :: mark :: (body ++ [mark]))

mutual

/-- The datum as it is shown in messages. -/
def display : Json → String
  | null => "None"
  | bool b => if b then "True" else "False"
  | int n => toString n
  | float x => Decimal.render x
  | text s => Text.quoted s
  | bytes bs => displayBytes bs
  | list items => "[" ++ ", ".intercalate (displayItems items) ++ "]"
  | object fields => "\x7b" ++ ", ".intercalate (displayFields fields) ++ "\x7d"

def displayItems : List Json → List String
  | [] => []
  | item :: rest => display item :: displayItems rest

def displayFields : List (String × Json) → List String
  | [] => []
  | (name, value) :: rest => (Text.quoted name ++ ": " ++ display value) :: displayFields rest

end

end Json

end HttpKit
