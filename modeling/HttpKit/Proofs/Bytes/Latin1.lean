import HttpKit.Bytes.Latin1
import Mathlib.Data.List.Basic

/-!
# Bytes as characters

Reading bytes as Latin-1 loses nothing: every byte is a character, and the byte of that character is
the byte read. A text has bytes if every character is one of these.
-/

namespace HttpKit.Latin1

theorem byte?_ofNat_toNat (b : UInt8) : byte? (Char.ofNat b.toNat) = some b := by
  have hb : b.toNat < 0x100 := b.toNat_lt
  have hc : (Char.ofNat b.toNat).toNat = b.toNat := by
    rw [Char.ofNat, dif_pos (Or.inl (by omega))]
    rfl
  rw [byte?, hc, if_pos hb, UInt8.ofNat_toNat]

/-- **Encoding undoes decoding.** -/
theorem encode?_decode (bytes : Bytes) : encode? (decode bytes) = some bytes := by
  rw [encode?, decode, String.toList_ofList]
  induction bytes with
  | nil => rfl
  | cons b bytes ih => simp [byte?_ofNat_toNat, ih]

theorem exists_encode? {s : String} (h : ∀ c ∈ s.toList, c.toNat < 0x100) :
    ∃ bytes, encode? s = some bytes := by
  rw [encode?]
  generalize s.toList = cs at h
  induction cs with
  | nil => exact ⟨[], rfl⟩
  | cons c cs ih =>
    obtain ⟨bytes, hbytes⟩ := ih fun d hd => h d (List.mem_cons_of_mem _ hd)
    have hc : byte? c = some (UInt8.ofNat c.toNat) := if_pos (h c List.mem_cons_self)
    exact ⟨_, by rw [List.mapM_cons, hc, hbytes]; rfl⟩

end HttpKit.Latin1
