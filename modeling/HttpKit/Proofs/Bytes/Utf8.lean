import HttpKit.Bytes.Utf8

/-!
# Reading back what was encoded

`decode_encode` says that decoding undoes encoding. The decoder takes one byte at a time, so each
character is followed through its bytes: what the first one announces (`push_ascii` to `push_four`),
and what the others add to it (`push_more`, `push_last`).

The bytes of a character beyond ASCII are all at least `0x80`, so a byte below that is always the
character itself. That is what makes it safe to cut a text at its bytes (`mem_utf8`). The other way
round, and for any bytes, an ASCII character is only read from its own byte (`mem_of_mem_decode`),
for the bounds on the second byte of a character exclude overlong forms.
-/

namespace HttpKit

namespace Utf8

/-! ## The first byte -/

theorem toNat_ofNat {n : Nat} (h : n < 256) : (UInt8.ofNat n).toNat = n := by
  simp [Nat.mod_eq_of_lt h]

/-- An ASCII byte is a character of its own. -/
theorem push_ascii {reversed : List Char} {n : Nat} (h : n < 0x80) :
    Decoder.push ⟨reversed, none⟩ (UInt8.ofNat n) = ⟨Char.ofNat n :: reversed, none⟩ := by
  have hn := toNat_ofNat (show n < 256 by omega)
  simp only [Decoder.push, Decoder.start, lead, UInt8.lt_iff_toNat_lt, hn, UInt8.reduceToNat]
  rw [if_pos h]

theorem push_two {reversed : List Char} {n : Nat} (h1 : 0xC2 ≤ n) (h2 : n < 0xE0) :
    Decoder.push ⟨reversed, none⟩ (UInt8.ofNat n)
      = ⟨reversed, some ⟨n - 0xC0, 1, 0x80, 0xBF⟩⟩ := by
  have hn := toNat_ofNat (show n < 256 by omega)
  simp only [Decoder.push, Decoder.start, lead, UInt8.lt_iff_toNat_lt, hn, UInt8.reduceToNat]
  rw [if_neg (show ¬n < 0x80 by omega), if_neg (show ¬n < 0xC2 by omega), if_pos h2]

theorem push_three {reversed : List Char} {n : Nat} (h1 : 0xE0 ≤ n) (h2 : n < 0xF0) :
    Decoder.push ⟨reversed, none⟩ (UInt8.ofNat n)
      = ⟨reversed, some ⟨n - 0xE0, 2, if n = 0xE0 then 0xA0 else 0x80,
          if n = 0xED then 0x9F else 0xBF⟩⟩ := by
  have hn := toNat_ofNat (show n < 256 by omega)
  simp only [Decoder.push, Decoder.start, lead, UInt8.lt_iff_toNat_lt, ← UInt8.toNat_inj, hn,
    UInt8.reduceToNat]
  rw [if_neg (show ¬n < 0x80 by omega), if_neg (show ¬n < 0xC2 by omega),
    if_neg (show ¬n < 0xE0 by omega), if_pos h2]

theorem push_four {reversed : List Char} {n : Nat} (h1 : 0xF0 ≤ n) (h2 : n < 0xF5) :
    Decoder.push ⟨reversed, none⟩ (UInt8.ofNat n)
      = ⟨reversed, some ⟨n - 0xF0, 3, if n = 0xF0 then 0x90 else 0x80,
          if n = 0xF4 then 0x8F else 0xBF⟩⟩ := by
  have hn := toNat_ofNat (show n < 256 by omega)
  simp only [Decoder.push, Decoder.start, lead, UInt8.lt_iff_toNat_lt, ← UInt8.toNat_inj, hn,
    UInt8.reduceToNat]
  rw [if_neg (show ¬n < 0x80 by omega), if_neg (show ¬n < 0xC2 by omega),
    if_neg (show ¬n < 0xE0 by omega), if_neg (show ¬n < 0xF0 by omega), if_pos h2]

/-! ## The bytes after it -/

/-- The last byte of a character completes it. -/
theorem push_last {reversed : List Char} {value : Nat} {low high : UInt8} {n : Nat}
    (hn : n < 256) (hlow : low.toNat ≤ n) (hhigh : n ≤ high.toNat) :
    Decoder.push ⟨reversed, some ⟨value, 1, low, high⟩⟩ (UInt8.ofNat n)
      = ⟨Char.ofNat (value * 64 + (n - 0x80)) :: reversed, none⟩ := by
  have hb := toNat_ofNat hn
  simp only [Decoder.push, UInt8.le_iff_toNat_le, hb]
  rw [if_pos ⟨hlow, hhigh⟩, if_pos (Nat.le_refl 1)]

/-- A byte that is not the last one is added to the value. -/
theorem push_more {reversed : List Char} {value missing : Nat} {low high : UInt8} {n : Nat}
    (hm : 2 ≤ missing) (hn : n < 256) (hlow : low.toNat ≤ n) (hhigh : n ≤ high.toNat) :
    Decoder.push ⟨reversed, some ⟨value, missing, low, high⟩⟩ (UInt8.ofNat n)
      = ⟨reversed, some ⟨value * 64 + (n - 0x80), missing - 1, 0x80, 0xBF⟩⟩ := by
  have hb := toNat_ofNat hn
  simp only [Decoder.push, UInt8.le_iff_toNat_le, hb]
  rw [if_pos ⟨hlow, hhigh⟩, if_neg (by omega)]

/-- **The bytes of a character are read as the character.** -/
theorem foldl_push_encodeChar (c : Char) (reversed : List Char) :
    (String.utf8EncodeChar c).foldl Decoder.push ⟨reversed, none⟩ = ⟨c :: reversed, none⟩ := by
  -- Surrogates are no characters, which is why the bound after `0xED` does no harm.
  have hvalid : c.val.toNat < 0xD800 ∨ 0xDFFF < c.val.toNat ∧ c.val.toNat < 0x110000 := c.valid
  have hc : Char.ofNat c.val.toNat = c := Char.ofNat_toNat c
  unfold String.utf8EncodeChar
  generalize hv : c.val.toNat = v at *
  simp only []
  split
  · next h1 =>
    rw [List.foldl_cons, push_ascii (by omega), hc, List.foldl_nil]
  split
  · next h1 h2 =>
    simp only [List.foldl_cons, List.foldl_nil]
    rw [push_two (by omega) (by omega), push_last (by omega) (by simp) (by simp; omega)]
    rw [show (v / 64 % 0x20 + 0xC0 - 0xC0) * 64 + (v % 0x40 + 0x80 - 0x80) = v by omega, hc]
  split
  · next h1 h2 h3 =>
    simp only [List.foldl_cons, List.foldl_nil]
    rw [push_three (by omega) (by omega)]
    rw [push_more (by omega) (by omega) (by split <;> simp; omega)
      (by split <;> simp <;> omega)]
    rw [push_last (by omega) (by simp) (by simp; omega)]
    rw [show ((v / 4096 % 0x10 + 0xE0 - 0xE0) * 64 + (v / 64 % 0x40 + 0x80 - 0x80)) * 64
        + (v % 0x40 + 0x80 - 0x80) = v by omega, hc]
  · next h1 h2 h3 =>
    simp only [List.foldl_cons, List.foldl_nil]
    rw [push_four (by omega) (by omega)]
    rw [push_more (by omega) (by omega) (by split <;> simp; omega)
      (by split <;> simp <;> omega)]
    rw [push_more (by omega) (by omega) (by simp) (by simp; omega)]
    rw [push_last (by omega) (by simp) (by simp; omega)]
    rw [show (((v / 262144 % 0x08 + 0xF0 - 0xF0) * 64 + (v / 4096 % 0x40 + 0x80 - 0x80)) * 64
        + (v / 64 % 0x40 + 0x80 - 0x80)) * 64 + (v % 0x40 + 0x80 - 0x80) = v by omega, hc]

theorem foldl_push_encode : ∀ (cs reversed : List Char),
    (encode cs).foldl Decoder.push ⟨reversed, none⟩ = ⟨cs.reverse ++ reversed, none⟩
  | [], _ => rfl
  | c :: cs, reversed => by
    rw [encode, List.flatMap_cons, List.foldl_append, foldl_push_encodeChar]
    have ih := foldl_push_encode cs (c :: reversed)
    rw [encode] at ih
    simp [ih]

/-- **Decoding undoes encoding.** -/
theorem decode_encode (cs : List Char) : decode (encode cs) = cs := by
  rw [decode, foldl_push_encode]
  simp [Decoder.finish]

/-! ## Which bytes there are -/

theorem le_toNat_ofNat_add {base n : Nat} (hb : 0x80 ≤ base) (h : n + base < 256) :
    0x80 ≤ (UInt8.ofNat (n + base)).toNat := by
  rw [toNat_ofNat h]
  omega

/-- A byte of a character is the character itself or stands beyond ASCII. -/
theorem mem_encodeChar {b : UInt8} {c : Char} (h : b ∈ String.utf8EncodeChar c) :
    0x80 ≤ b.toNat ∨ b.toNat = c.toNat := by
  unfold String.utf8EncodeChar at h
  simp only [] at h
  split at h
  · next h1 =>
    obtain rfl := List.mem_singleton.mp h
    exact Or.inr (toNat_ofNat (by omega))
  refine Or.inl ?_
  split at h
  · simp only [List.mem_cons, List.not_mem_nil, or_false] at h
    rcases h with rfl | rfl <;> exact le_toNat_ofNat_add (by omega) (by omega)
  split at h
  · simp only [List.mem_cons, List.not_mem_nil, or_false] at h
    rcases h with rfl | rfl | rfl <;> exact le_toNat_ofNat_add (by omega) (by omega)
  · simp only [List.mem_cons, List.not_mem_nil, or_false] at h
    rcases h with rfl | rfl | rfl | rfl <;> exact le_toNat_ofNat_add (by omega) (by omega)

/-- An ASCII character is the only one with its byte, and has no other. -/
theorem encodeChar_eq_of_ascii {b : UInt8} {c : Char} {before after : Bytes}
    (hb : b.toNat < 0x80) (h : String.utf8EncodeChar c = before ++ b :: after) :
    before = [] ∧ after = [] ∧ c.toNat = b.toNat := by
  have hm : b ∈ String.utf8EncodeChar c := by simp [h]
  have hc : c.toNat = b.toNat := by
    rcases mem_encodeChar hm with h1 | h1 <;> omega
  have hlen : (String.utf8EncodeChar c).length = 1 := by
    have hval : c.val.toNat = b.toNat := hc
    rw [String.length_utf8EncodeChar, Char.utf8Size_eq_one_iff, UInt32.le_iff_toNat_le, hval]
    exact Nat.le_of_lt_succ hb
  rw [h, List.length_append, List.length_cons] at hlen
  exact ⟨List.eq_nil_of_length_eq_zero (by omega), List.eq_nil_of_length_eq_zero (by omega), hc⟩

theorem exists_of_encode_eq_cons {b : UInt8} (hb : b.toNat < 0x80) {cs : List Char} {after : Bytes}
    (h : encode cs = b :: after) :
    ∃ (c : Char) (back : List Char), cs = c :: back ∧ c.toNat = b.toNat ∧ encode back = after := by
  cases cs with
  | nil => simp [encode] at h
  | cons c cs =>
    rw [encode, List.flatMap_cons] at h
    cases hc : String.utf8EncodeChar c with
    | nil => exact absurd hc String.utf8EncodeChar_ne_nil
    | cons d more =>
      rw [hc, List.cons_append] at h
      obtain ⟨rfl, hafter⟩ := List.cons.inj h
      rw [← List.nil_append (d :: more)] at hc
      obtain ⟨-, rfl, hcd⟩ := encodeChar_eq_of_ascii hb hc
      exact ⟨c, cs, rfl, hcd, hafter⟩

/-- Bytes with an ASCII character among them are those of a text with the character in it. -/
theorem exists_of_encode_eq_append {b : UInt8} (hb : b.toNat < 0x80) {after : Bytes} :
    ∀ {cs : List Char} {before : Bytes}, encode cs = before ++ b :: after →
      ∃ (front : List Char) (c : Char) (back : List Char),
        cs = front ++ c :: back ∧ c.toNat = b.toNat ∧ encode back = after
  | [], before, h => by simp [encode] at h
  | c :: cs, before, h => by
    rw [encode, List.flatMap_cons] at h
    rcases List.append_eq_append_iff.mp h with ⟨more, -, hcs⟩ | ⟨more, hc, hmore⟩
    · obtain ⟨front, d, back, rfl, hd⟩ := exists_of_encode_eq_append hb hcs
      exact ⟨c :: front, d, back, rfl, hd⟩
    · cases more with
      | nil =>
        obtain ⟨d, back, rfl, hd⟩ := exists_of_encode_eq_cons hb hmore.symm
        exact ⟨[c], d, back, rfl, hd⟩
      | cons d more =>
        obtain ⟨rfl, rfl⟩ := List.cons.inj hmore
        obtain ⟨-, rfl, hcb⟩ := encodeChar_eq_of_ascii hb hc
        exact ⟨[], c, cs, rfl, hcb, rfl⟩

/-! ## Which characters there are -/

/-- Whether the character that was begun stands beyond ASCII whichever bytes complete it. The next
one is bounded from below, and each of the others makes the value at least 64 times as large. -/
def Pending.BeyondAscii (p : Pending) : Prop :=
  (if p.missing ≤ 1 then 0x80 else 2) ≤ p.value * 64 + (p.low.toNat - 0x80)

/-- Whether a character has its byte among these if it is ASCII. NUL is left out, as it also stands
for the numbers that are no characters. -/
def StandsIn (bytes : Bytes) (c : Char) : Prop :=
  0 < c.toNat → c.toNat < 0x80 → UInt8.ofNat c.toNat ∈ bytes

/-- Whether what a decoder has read and begun is accounted for by these bytes. -/
structure Decoder.ReadFrom (bytes : Bytes) (d : Decoder) : Prop where
  chars : ∀ c ∈ d.reversed, StandsIn bytes c
  pending : ∀ p ∈ d.pending, p.BeyondAscii

/-- A number that is no character is read as NUL. -/
theorem toNat_charOfNat (n : Nat) : (Char.ofNat n).toNat = n ∨ (Char.ofNat n).toNat = 0 := by
  by_cases h : n.isValidChar
  · have hvalid : Char.ofNat n = Char.ofNatAux n h := dif_pos h
    exact Or.inl (hvalid ▸ rfl)
  · have hnul : Char.ofNat n = Char.ofNat 0 := dif_neg h
    exact Or.inr (hnul ▸ rfl)

theorem standsIn_ofNat {bytes : Bytes} {n : Nat} (h : n < 0x80 → UInt8.ofNat n ∈ bytes) :
    StandsIn bytes (Char.ofNat n) := by
  intro hpos hlt
  rcases toNat_charOfNat n with hn | hn
  · rw [hn] at hlt ⊢
    exact h hlt
  · omega

theorem standsIn_of_complete {bytes : Bytes} {b : UInt8} {c : Char} (h : lead b = .complete c)
    (hb : b ∈ bytes) : StandsIn bytes c := by
  have hc : Char.ofNat b.toNat = c := by
    unfold lead at h
    split at h
    · exact Lead.complete.inj h
    repeat' split at h
    all_goals simp at h
  exact hc ▸ standsIn_ofNat fun _ => UInt8.ofNat_toNat ▸ hb

theorem standsIn_replacement (bytes : Bytes) : StandsIn bytes replacement :=
  fun _ h => absurd h (by decide)

/-- Overlong forms are excluded, so that what takes more than one byte is not ASCII. -/
theorem beyondAscii_of_lead {b : UInt8} {p : Pending} (h : lead b = .begun p) : p.BeyondAscii := by
  simp only [lead, UInt8.lt_iff_toNat_lt, ← UInt8.toNat_inj, UInt8.reduceToNat] at h
  split at h
  · simp at h
  split at h
  · simp at h
  split at h
  · obtain rfl := Lead.begun.inj h
    simp only [Pending.BeyondAscii, UInt8.reduceToNat, Nat.le_refl, if_true]
    omega
  split at h
  · obtain rfl := Lead.begun.inj h
    simp only [Pending.BeyondAscii, Nat.reduceLeDiff, if_false]
    split <;> simp only [UInt8.reduceToNat] <;> omega
  split at h
  · obtain rfl := Lead.begun.inj h
    simp only [Pending.BeyondAscii, Nat.reduceLeDiff, if_false]
    split <;> simp only [UInt8.reduceToNat] <;> omega
  · simp at h

namespace Decoder

variable {bytes : Bytes} {d : Decoder} {reversed : List Char}

theorem readFrom_cons {c : Char} (hc : StandsIn bytes c) (h : ∀ c ∈ reversed, StandsIn bytes c) :
    ReadFrom bytes ⟨c :: reversed, none⟩ where
  chars := List.forall_mem_cons.mpr ⟨hc, h⟩
  pending := by simp

theorem readFrom_start {b : UInt8} (hb : b ∈ bytes) (h : ∀ c ∈ reversed, StandsIn bytes c) :
    ReadFrom bytes (start reversed b) := by
  rw [start]
  split
  · next c hc => exact readFrom_cons (standsIn_of_complete hc hb) h
  · next p hp => exact ⟨h, fun q hq => Option.some.inj hq ▸ beyondAscii_of_lead hp⟩
  · exact readFrom_cons (standsIn_replacement bytes) h

/-- **A byte that is taken keeps what was read accounted for.** -/
theorem ReadFrom.push (h : ReadFrom bytes d) {b : UInt8} (hb : b ∈ bytes) :
    ReadFrom bytes (d.push b) := by
  rw [Decoder.push]
  split
  · exact readFrom_start hb h.chars
  next p hp =>
  have hbound := h.pending p hp
  rw [Pending.BeyondAscii] at hbound
  split
  · next hrange =>
    have hlow : p.low.toNat ≤ b.toNat := UInt8.le_iff_toNat_le.mp hrange.1
    dsimp only
    split
    · next hlast =>
      rw [if_pos hlast] at hbound
      exact readFrom_cons (standsIn_ofNat fun hlt => by omega) h.chars
    · next hmore =>
      rw [if_neg hmore] at hbound
      refine ⟨h.chars, fun q hq => Option.some.inj hq ▸ ?_⟩
      simp only [Pending.BeyondAscii]
      split <;> omega
  · exact readFrom_start hb (List.forall_mem_cons.mpr ⟨standsIn_replacement bytes, h.chars⟩)

theorem ReadFrom.foldl : ∀ (rest : Bytes) {d : Decoder}, (∀ b ∈ rest, b ∈ bytes) →
    ReadFrom bytes d → ReadFrom bytes (rest.foldl Decoder.push d)
  | [], _, _, h => h
  | b :: rest, _, hmem, h =>
    ReadFrom.foldl rest (fun c hc => hmem c (List.mem_cons_of_mem b hc))
      (h.push (hmem b List.mem_cons_self))

end Decoder

/-- **An ASCII character is only read from its byte.** -/
theorem mem_of_mem_decode {bytes : Bytes} {c : Char} (h : c ∈ decode bytes) (hpos : 0 < c.toNat)
    (hc : c.toNat < 0x80) : UInt8.ofNat c.toNat ∈ bytes := by
  have hread : Decoder.ReadFrom bytes (bytes.foldl Decoder.push ⟨[], none⟩) :=
    .foldl bytes (fun _ hb => hb) ⟨by simp, by simp⟩
  have hall : ∀ c ∈ decode bytes, StandsIn bytes c := by
    intro c hc
    rw [decode, Decoder.finish] at hc
    split at hc
    · exact hread.chars c (List.mem_reverse.mp hc)
    · exact List.forall_mem_cons.mpr ⟨standsIn_replacement bytes, hread.chars⟩ c
        (List.mem_reverse.mp hc)
  exact hall c h hpos hc

end Utf8

/-! ## Texts -/

theorem utf8_append (a b : String) : utf8 (a ++ b) = utf8 a ++ utf8 b := by
  simp [utf8, Utf8.encode]

theorem utf8_join (texts : List String) : utf8 (String.join texts) = texts.flatMap utf8 := by
  induction texts with
  | nil => rfl
  | cons s texts ih => rw [String.join_cons, utf8_append, ih, List.flatMap_cons]

theorem ofUtf8_utf8 (s : String) : ofUtf8 (utf8 s) = s := by
  rw [ofUtf8, utf8, Utf8.decode_encode, String.ofList_toList]

theorem utf8_ne_nil {s : String} (h : s ≠ "") : utf8 s ≠ [] := fun hnil =>
  h (by rw [← ofUtf8_utf8 s, hnil]; rfl)

/-- A byte below `0x80` in the bytes of a text is one of its characters. -/
theorem mem_utf8 {s : String} {b : UInt8} (h : b ∈ utf8 s) (hb : b.toNat < 0x80) :
    ∃ c ∈ s.toList, c.toNat = b.toNat := by
  obtain ⟨c, hc, hbc⟩ := List.mem_flatMap.mp h
  rcases Utf8.mem_encodeChar hbc with h1 | h1
  · omega
  · exact ⟨c, hc, h1.symm⟩

/-- A text without an ASCII character has no byte of it. -/
theorem not_mem_utf8 {s : String} {c : Char} (hc : c.toNat < 0x80) (h : c ∉ s.toList) :
    UInt8.ofNat c.toNat ∉ utf8 s := by
  intro hb
  have hn := Utf8.toNat_ofNat (show c.toNat < 256 by omega)
  obtain ⟨d, hd, hdc⟩ := mem_utf8 hb (by omega)
  rw [hn] at hdc
  exact h (by rwa [← Char.ofNat_toNat c, ← hdc, Char.ofNat_toNat])

/-- A text has no ASCII character whose byte was not there. -/
theorem not_mem_ofUtf8 {bytes : Bytes} {c : Char} (hpos : 0 < c.toNat) (hc : c.toNat < 0x80)
    (h : UInt8.ofNat c.toNat ∉ bytes) : c ∉ (ofUtf8 bytes).toList := by
  rw [ofUtf8, String.toList_ofList]
  exact fun hm => h (Utf8.mem_of_mem_decode hm hpos hc)

end HttpKit
