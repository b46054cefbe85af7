import HttpKit.Proofs.Wire.Reading

/-!
# Bodies in memory

The body loop asks for what is missing until nothing is, or until nothing comes. Memory gives all
that is asked for or all that there is, so the first read decides: after it either nothing is
missing or no bytes are left.
-/

namespace HttpKit.Wire

theorem read_memory_body {count : Nat} (h : count < countBound) (bytes : Bytes) :
    Source.read count (Memory.mk bytes) = (.data (bytes.take count), ⟨bytes.drop count⟩) := by
  show Memory.read _ _ = _
  rw [Memory.read, if_neg (by omega)]
  rfl

/-- Where no bytes are left nothing is added. -/
theorem readParts_nil {missing : Nat} (h : missing < countBound) (found : List Bytes) :
    readParts missing found (Memory.mk []) = (.ok found.reverse.flatten, ⟨[]⟩) := by
  by_cases h0 : missing = 0
  · rw [h0, readParts_zero]
  · rw [readParts_of_data h0 (read_memory_body h []), if_pos (List.take_nil)]
    simp

/-- **A body is as many of the bytes as it declares, or those that there are.** -/
theorem readBody_memory {length : Nat} (h : length < countBound) (bytes : Bytes) :
    readBody length (Memory.mk bytes)
      = (.ok (bytes.take length), ⟨bytes.drop length⟩) := by
  rw [readBody]
  by_cases h0 : length = 0
  · simp [h0, readParts_zero]
  rw [readParts_of_data h0 (read_memory_body h bytes)]
  by_cases hb : bytes = []
  · simp [hb]
  rw [if_neg (by simp [h0, hb])]
  -- Either nothing is missing after the first read, or the bytes are used up.
  by_cases hl : length ≤ bytes.length
  · rw [List.length_take, Nat.min_eq_left hl, Nat.sub_self, readParts_zero]
    simp
  · rw [List.drop_of_length_le (by omega), readParts_nil (by omega)]
    simp

theorem readBody_of_countBound_le {length : Nat} (h : countBound ≤ length) (bytes : Bytes) :
    readBody length (Memory.mk bytes) = (.error (.read .countTooLarge), ⟨bytes⟩) := by
  have hread : Source.read length (Memory.mk bytes) = (.failed .countTooLarge, ⟨bytes⟩) := by
    show Memory.read _ _ = _
    rw [Memory.read, if_pos h]
  rw [readBody, readParts_of_failed (by unfold countBound at h; omega) hread]

end HttpKit.Wire
