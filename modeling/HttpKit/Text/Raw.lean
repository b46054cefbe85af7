import HttpKit.Bytes.Utf8
import HttpKit.Text.Casing

/-!
# Texts with lone surrogates

An application may hand over a text that holds surrogates: halves of a UTF-16 pair, which are no
characters. A surrogate has no case and no bytes in UTF-8, so a text that holds one has no bytes at
all.
-/

namespace HttpKit

/-- A surrogate, counted from U+D800. -/
abbrev Surrogate := Fin 0x800

/-- What a text is made of. -/
inductive CodePoint where
  | char (c : Char)
  | surrogate (s : Surrogate)
  deriving DecidableEq, Repr

/-- The character, unless it is a surrogate. -/
def CodePoint.char? : CodePoint → Option Char
  | char c => some c
  | surrogate _ => none

/-- A text that may hold surrogates. -/
structure RawText where
  points : List CodePoint
  deriving DecidableEq, Repr

namespace RawText

/-- A text without surrogates. -/
def ofString (s : String) : RawText := ⟨s.toList.map .char⟩

instance : Coe String RawText := ⟨ofString⟩

instance : Append RawText := ⟨fun a b => ⟨a.points ++ b.points⟩⟩

/-- Whether nothing is in the text. -/
def isEmpty (t : RawText) : Bool := t.points.isEmpty

/-- Texts one after the other. -/
def join (texts : List RawText) : RawText := ⟨texts.flatMap points⟩

/-- The text as it is, unless it holds a surrogate. -/
def string? (t : RawText) : Option String := (t.points.mapM CodePoint.char?).map String.ofList

/-- The bytes of a text in UTF-8. There are none where it holds a surrogate. -/
def bytes? (t : RawText) : Option Bytes := t.string?.map utf8

/-- Lower case of the rest of a text. `run` are the characters since the last surrogate, in reverse:
a surrogate has no case, so that a sigma beside it stands at the end of a word. -/
def lowerPoints (run : List Char) : List CodePoint → List CodePoint
  | [] => (Text.lowerRest [] [] run.reverse).map .char
  | .char c :: rest => lowerPoints (c :: run) rest
  | .surrogate s :: rest =>
    (Text.lowerRest [] [] run.reverse).map .char ++ .surrogate s :: lowerPoints [] rest

instance : Text.HasLower RawText := ⟨fun t => ⟨lowerPoints [] t.points⟩⟩

end RawText

end HttpKit
