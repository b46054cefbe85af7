import HttpKit.Method
import Mathlib.Data.List.Basic

/-!
# Method tokens in any casing

The upper case of an ASCII text is that of its characters, so a token names the method that it is
in upper case. The case tables do not come into it.
-/

namespace HttpKit

namespace Text

theorem upperChar_of_lt {c : Char} (h : c.toNat < 0x80) : upperChar c = [c.toUpper] := by
  rw [upperChar, if_pos h]

theorem upper_of_ascii {s : String} (h : ∀ c ∈ s.toList, c.toNat < 0x80) :
    upper s = String.ofList (s.toList.map Char.toUpper) := by
  have hchars : s.toList.flatMap upperChar = s.toList.flatMap fun c => [c.toUpper] :=
    List.flatMap_congr fun c hc => upperChar_of_lt (h c hc)
  rw [upper, hchars, ← List.map_eq_flatMap]

/-- A character whose upper case is ASCII is ASCII. -/
theorem toNat_lt_of_toUpper {c : Char} (h : c.toUpper.toNat < 0x80) : c.toNat < 0x80 := by
  unfold Char.toUpper at h
  split at h
  · next hc =>
    have hz : c.toNat ≤ 'z'.toNat := UInt32.le_iff_toNat_le.mp hc.2
    exact Nat.lt_of_le_of_lt hz (by decide)
  · exact h

end Text

namespace Method

theorem name_ascii (m : Method) : ∀ c ∈ m.name.toList, c.toNat < 0x80 := by
  have hall : m.name.toList.all (·.toNat < 0x80) = true := by
    cases m <;> rfl
  simpa using hall

theorem find?_all_name (m : Method) : all.find? (·.name = m.name) = some m := by
  cases m <;> decide

/-- **A token that is the name of a method but for the case of its letters names the method.** -/
theorem ofToken?_of_toUpper {token : String} {m : Method}
    (h : token.toList.map Char.toUpper = m.name.toList) : ofToken? token = some m := by
  have hascii : ∀ c ∈ token.toList, c.toNat < 0x80 := by
    intro c hc
    have hname : c.toUpper ∈ m.name.toList := h ▸ List.mem_map_of_mem hc
    exact Text.toNat_lt_of_toUpper (name_ascii m _ hname)
  have hupper : Text.upper token = m.name := by
    rw [Text.upper_of_ascii hascii, h, String.ofList_toList]
  rw [ofToken?, hupper]
  exact find?_all_name m

/-- A method is read back from its name. -/
theorem ofToken_name (m : Method) : ofToken (some m.name) = .ok m := by
  cases m <;> rfl

end Method

end HttpKit
