import HttpKit.Json

/-!
# Writing JSON

ASCII only: everything beyond is written as escapes of UTF-16 units.
-/

namespace HttpKit.Json

/-- Why a datum has no JSON form. -/
inductive PrintError where
  /-- A datum of this kind cannot be written. -/
  | notSerializable (kind : String)
  deriving DecidableEq, Repr

/-- What is said about it. -/
def PrintError.message : PrintError → String
  | .notSerializable kind => s!"Object of type {kind} is not JSON serializable"

/-- What stands between two items, and between a name and its value. -/
structure Separators where
  item : String
  field : String

/-- Without blanks. -/
def Separators.compact : Separators := ⟨",", ":"⟩

/-- With a blank after every comma and colon. -/
def Separators.spaced : Separators := ⟨", ", ": "⟩

/-- A UTF-16 unit as an escape. -/
def unitEscape (n : Nat) : List Char := '\\' :: 'u' :: Text.hexDigits 4 n

/-- One character of a JSON string. -/
def escapeChar (c : Char) : List Char :=
  if c = '"' then ['\\', '"']
  else if c = '\\' then ['\\', '\\']
  else if c = '\n' then ['\\', 'n']
  else if c = '\r' then ['\\', 'r']
  else if c = '\t' then ['\\', 't']
  else if c = '\x08' then ['\\', 'b']
  else if c = '\x0c' then ['\\', 'f']
  else if 0x20 ≤ c.toNat ∧ c.toNat < 0x7F then [c]
  else if c.toNat < 0x10000 then unitEscape c.toNat
  else
    let offset := c.toNat - 0x10000
    unitEscape (0xD800 + offset / 0x400) ++ unitEscape (0xDC00 + offset % 0x400)

/-- A JSON string. -/
def renderText (s : String) : String :=
  String.ofList ('"' :: (s.toList.flatMap escapeChar ++ ['"']))

/-- Numbers in JSON: plain notation, with the names of the special values spelled out. -/
def numberStyle : Decimal.Style := { Decimal.Style.plain with nan := "NaN", infinity := "Infinity" }

mutual

/-- The JSON text of a datum. Whole numbers are written with all their digits: they are statuses,
from 100 to 999, and counts, and how many digits could be written at all is left out. -/
def render (sep : Separators) : Json → Except PrintError String
  | null => .ok "null"
  | bool b => .ok (if b then "true" else "false")
  | int n => .ok (toString n)
  | float x => .ok (numberStyle.render x)
  | text s => .ok (renderText s)
  | bytes bs => .error (.notSerializable (bytes bs).kindName)
  | list items => do return "[" ++ sep.item.intercalate (← renderItems sep items) ++ "]"
  | object fields => do return "\x7b" ++ sep.item.intercalate (← renderFields sep fields) ++ "\x7d"

def renderItems (sep : Separators) : List Json → Except PrintError (List String)
  | [] => .ok []
  | item :: rest => do return (← render sep item) :: (← renderItems sep rest)

def renderFields (sep : Separators) : List (String × Json) → Except PrintError (List String)
  | [] => .ok []
  | (name, value) :: rest => do
    let value ← render sep value
    return (renderText name ++ sep.field ++ value) :: (← renderFields sep rest)

end

end HttpKit.Json
