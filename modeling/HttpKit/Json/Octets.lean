import HttpKit.Json

/-!
# Data as bytes

What a body given as a datum comes to: nothing for no datum, a text in UTF-8, bytes as they are, a
count of zero bytes for a whole number, and a byte for every whole number in a list.
-/

namespace HttpKit.Json

/-- Why a datum is no body. -/
inductive OctetsError where
  /-- A count below zero. -/
  | negativeCount
  /-- A count that is no size of anything. -/
  | countTooLarge
  /-- A count of more bytes than there is room for. -/
  | noRoom
  /-- A datum of a kind that has no bytes. -/
  | notOctets (kind : String)
  /-- An item of a list that is no whole number. -/
  | notWhole (kind : String)
  /-- An item of a list that is beyond a byte. -/
  | beyondByte
  deriving DecidableEq, Repr

/-- What is said about it. -/
def OctetsError.message : OctetsError → String
  | .negativeCount => "negative count"
  | .countTooLarge => "cannot fit 'int' into an index-sized integer"
  | .noRoom => ""
  | .notOctets kind => s!"cannot convert '{kind}' object to bytes"
  | .notWhole kind => s!"'{kind}' object cannot be interpreted as an integer"
  | .beyondByte => "bytes must be in range(0, 256)"

/-- The first count that is no size of anything. -/
def sizeBound : Nat := 0x8000000000000000

/-- What anything takes beside its bytes. -/
def overhead : Nat := 33

/-- So many zero bytes, if there is room for more than that. -/
def zeroOctets (room : Nat) (count : Int) : Except OctetsError Bytes :=
  if count < -sizeBound ∨ sizeBound ≤ count + overhead then .error .countTooLarge
  else if count < 0 then .error .negativeCount
  else if room ≤ count then .error .noRoom
  else .ok (List.replicate count.toNat 0)

/-- The byte that an item of a list is. -/
def octet : Json → Except OctetsError UInt8
  | int n => if 0 ≤ n ∧ n < 256 then .ok (UInt8.ofNat n.toNat) else .error .beyondByte
  | bool b => .ok (if b then 1 else 0)
  | value => .error (.notWhole value.kindName)

/-- The bytes of a datum. The items of an object are its names. How many zero bytes there is room
for is not decided here. -/
def octets (room : Nat) : Json → Except OctetsError Bytes
  | null => .ok []
  | text s => .ok (utf8 s)
  | bytes bs => .ok bs
  | int n => zeroOctets room n
  | bool b => zeroOctets room (if b then 1 else 0)
  | list items => items.mapM octet
  | object fields => fields.mapM fun field => octet (text field.1)
  | float x => .error (.notOctets (float x).kindName)

end HttpKit.Json
