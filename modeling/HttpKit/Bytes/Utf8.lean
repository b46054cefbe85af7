/-!
# UTF-8

Encoding, and decoding that never fails: bytes that belong to no character become U+FFFD, one for
every longest run of bytes that could still have begun a character.
-/

namespace HttpKit

/-- A sequence of bytes. -/
abbrev Bytes := List UInt8

namespace Utf8

/-- The bytes of a text. -/
def encode (cs : List Char) : Bytes := cs.flatMap String.utf8EncodeChar

/-- A character whose first bytes have been read. The next byte must lie between `low` and
`high`. -/
structure Pending where
  value : Nat
  missing : Nat
  low : UInt8
  high : UInt8

/-- What a byte that starts a character says. -/
inductive Lead where
  | complete (c : Char)
  | begun (p : Pending)
  | none

/-- Reads the first byte of a character. The bounds on the second byte exclude overlong forms,
surrogates and values beyond U+10FFFF. -/
def lead (b : UInt8) : Lead :=
  if b < 0x80 then .complete (Char.ofNat b.toNat)
  else if b < 0xC2 then .none
  else if b < 0xE0 then .begun ⟨b.toNat - 0xC0, 1, 0x80, 0xBF⟩
  else if b < 0xF0 then
    .begun ⟨b.toNat - 0xE0, 2, if b = 0xE0 then 0xA0 else 0x80, if b = 0xED then 0x9F else 0xBF⟩
  else if b < 0xF5 then
    .begun ⟨b.toNat - 0xF0, 3, if b = 0xF0 then 0x90 else 0x80, if b = 0xF4 then 0x8F else 0xBF⟩
  else .none

/-- The character that stands for bytes that are none. -/
def replacement : Char := '\uFFFD'

/-- A decoder between two bytes: the characters so far, the last first, and the one begun. -/
structure Decoder where
  reversed : List Char
  pending : Option Pending

/-- Takes a byte where a character starts. -/
def Decoder.start (reversed : List Char) (b : UInt8) : Decoder :=
  match lead b with
  | .complete c => ⟨c :: reversed, none⟩
  | .begun p => ⟨reversed, some p⟩
  | .none => ⟨replacement :: reversed, none⟩

/-- Takes the next byte. One that cannot continue the character begun ends it and is read again as
a first byte. -/
def Decoder.push (d : Decoder) (b : UInt8) : Decoder :=
  match d.pending with
  | none => .start d.reversed b
  | some p =>
    if p.low ≤ b ∧ b ≤ p.high then
      let value := p.value * 64 + (b.toNat - 0x80)
      if p.missing ≤ 1 then ⟨Char.ofNat value :: d.reversed, none⟩
      else ⟨d.reversed, some ⟨value, p.missing - 1, 0x80, 0xBF⟩⟩
    else .start (replacement :: d.reversed) b

/-- The characters read. A character begun and not ended counts as one that is none. -/
def Decoder.finish (d : Decoder) : List Char :=
  match d.pending with
  | none => d.reversed.reverse
  | some _ => (replacement :: d.reversed).reverse

/-- The text of the bytes. -/
def decode (bytes : Bytes) : List Char :=
  (bytes.foldl Decoder.push ⟨[], none⟩).finish

end Utf8

/-- The bytes of a text in UTF-8. -/
def utf8 (s : String) : Bytes := Utf8.encode s.toList

/-- The text of bytes in UTF-8, with U+FFFD where they are not. -/
def ofUtf8 (bytes : Bytes) : String := String.ofList (Utf8.decode bytes)

end HttpKit
