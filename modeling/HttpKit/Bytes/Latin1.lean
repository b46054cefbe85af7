import HttpKit.Bytes.Utf8

/-!
# Latin-1

One byte for every character up to U+00FF, and none for the others.
-/

namespace HttpKit.Latin1

/-- The byte of a character, if it has one. -/
def byte? (c : Char) : Option UInt8 :=
  if c.toNat < 0x100 then some (UInt8.ofNat c.toNat) else none

/-- The bytes of a text, if every character has one. -/
def encode? (s : String) : Option Bytes := s.toList.mapM byte?

/-- The text of the bytes. -/
def decode (bytes : Bytes) : String := String.ofList (bytes.map fun b => Char.ofNat b.toNat)

end HttpKit.Latin1
