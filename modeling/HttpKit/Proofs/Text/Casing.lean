import HttpKit.Text.Casing
import Mathlib.Data.List.Basic

/-!
# Case of ASCII texts

On ASCII every character has one image, and neither the tables nor the neighbours of a character
matter for its lower case. Title case does depend on what stands before, but it changes nothing but
the case, so the lower case is the same before and after (`lower_title_of_ascii`).

Of other texts it is only said that none is lost: the empty text alone has an empty lower case
(`lower_eq_empty_iff`).
-/

namespace HttpKit.Text

/-- Whether a text is ASCII. -/
def IsAscii (s : String) : Prop := ∀ c ∈ s.toList, c.toNat < 0x80

instance (s : String) : Decidable (IsAscii s) := List.decidableBAll _ _

/-- What holds of all ASCII characters can be checked one by one. -/
theorem forall_ascii {p : Char → Prop} (h : ∀ n < 0x80, p (Char.ofNat n)) {c : Char}
    (hc : c.toNat < 0x80) : p c := by
  have hp := h c.toNat hc
  rwa [Char.ofNat_toNat] at hp

theorem toNat_toLower_lt {c : Char} (hc : c.toNat < 0x80) : c.toLower.toNat < 0x80 :=
  forall_ascii (p := fun c => c.toLower.toNat < 0x80) (by decide +kernel) hc

theorem toNat_toUpper_lt {c : Char} (hc : c.toNat < 0x80) : c.toUpper.toNat < 0x80 :=
  forall_ascii (p := fun c => c.toUpper.toNat < 0x80) (by decide +kernel) hc

theorem toLower_toLower {c : Char} (hc : c.toNat < 0x80) : c.toLower.toLower = c.toLower :=
  forall_ascii (p := fun c => c.toLower.toLower = c.toLower) (by decide +kernel) hc

theorem toLower_toUpper {c : Char} (hc : c.toNat < 0x80) : c.toUpper.toLower = c.toLower :=
  forall_ascii (p := fun c => c.toUpper.toLower = c.toLower) (by decide +kernel) hc

/-! ## Lower case -/

theorem lowerBetween_of_ascii {c : Char} (hc : c.toNat < 0x80) (prior following : List Char) :
    lowerBetween prior c following = [c.toLower] := by
  have hsigma : c ≠ 'Σ' := by
    rintro rfl
    exact absurd hc (by decide)
  rw [lowerBetween, if_neg hsigma, lowerChar, if_pos hc]

theorem lowerRest_of_ascii : ∀ (cs done prior : List Char), (∀ c ∈ cs, c.toNat < 0x80) →
    lowerRest done prior cs = done.reverse ++ cs.map Char.toLower
  | [], done, _, _ => by rw [lowerRest, List.map_nil, List.append_nil]
  | c :: cs, done, prior, h => by
    rw [lowerRest, lowerBetween_of_ascii (h c List.mem_cons_self),
      lowerRest_of_ascii cs _ _ fun d hd => h d (List.mem_cons_of_mem _ hd)]
    simp

theorem lower_of_ascii {s : String} (h : IsAscii s) :
    lower s = String.ofList (s.toList.map Char.toLower) := by
  rw [lower_string, lowerRest_of_ascii _ _ _ h]
  rfl

theorem lowerChar_ne_nil (c : Char) : lowerChar c ≠ [] := by
  have hspecial : ∀ entry ∈ lowerSpecial, entry.2 ≠ [] := by decide
  rw [lowerChar]
  split
  · simp
  · rw [mapBeyondAscii]
    split
    · next image h =>
      obtain ⟨before, after, hentries, -⟩ := List.lookup_eq_some_iff.mp h
      have hne := hspecial (c.toNat, image) (hentries ▸ List.mem_append_right _ List.mem_cons_self)
      simpa using hne
    · simp

theorem lowerBetween_ne_nil (prior : List Char) (c : Char) (following : List Char) :
    lowerBetween prior c following ≠ [] := by
  rw [lowerBetween]
  split
  · split <;> simp
  · exact lowerChar_ne_nil c

theorem lowerRest_eq_nil_iff : ∀ (cs done prior : List Char),
    lowerRest done prior cs = [] ↔ done = [] ∧ cs = []
  | [], done, _ => by simp [lowerRest]
  | c :: cs, done, prior => by
    rw [lowerRest, lowerRest_eq_nil_iff cs]
    simp [lowerBetween_ne_nil]

/-- Only the empty text has an empty lower case. -/
theorem lower_eq_empty_iff {s : String} : lower s = "" ↔ s = "" := by
  rw [lower_string, ← String.toList_inj, String.toList_ofList, ← String.toList_inj]
  simp [lowerRest_eq_nil_iff]

/-! ## Title case -/

theorem titleChar_of_ascii {c : Char} (hc : c.toNat < 0x80) : titleChar c = [c.toUpper] :=
  forall_ascii (p := fun c => titleChar c = [c.toUpper]) (by decide +kernel) hc

/-- Title case changes nothing but the case. -/
theorem titleBetween_of_ascii {c : Char} (hc : c.toNat < 0x80) (prior following : List Char) :
    ∃ d, titleBetween prior c following = [d] ∧ d.toNat < 0x80 ∧ d.toLower = c.toLower := by
  rw [titleBetween]
  split
  · exact ⟨_, lowerBetween_of_ascii hc prior following, toNat_toLower_lt hc, toLower_toLower hc⟩
  · exact ⟨_, titleChar_of_ascii hc, toNat_toUpper_lt hc, toLower_toUpper hc⟩

theorem titleRest_of_ascii : ∀ (cs done prior : List Char), (∀ c ∈ cs, c.toNat < 0x80) →
    ∃ ds, titleRest done prior cs = done.reverse ++ ds ∧ (∀ d ∈ ds, d.toNat < 0x80)
      ∧ ds.map Char.toLower = cs.map Char.toLower
  | [], done, _, _ => ⟨[], by rw [titleRest, List.append_nil], by simp, rfl⟩
  | c :: cs, done, prior, h => by
    obtain ⟨d, hd, hascii, hlower⟩ := titleBetween_of_ascii (h c List.mem_cons_self) prior cs
    obtain ⟨ds, hds, hasciis, hlowers⟩ := titleRest_of_ascii cs ([d].reverse ++ done) (c :: prior)
      fun d hd => h d (List.mem_cons_of_mem _ hd)
    refine ⟨d :: ds, ?_, ?_, ?_⟩
    · rw [titleRest, hd, hds]
      simp
    · simpa [hascii] using hasciis
    · rw [List.map_cons, List.map_cons, hlower, hlowers]

/-- **Title case is undone by lower case.** -/
theorem lower_title_of_ascii {s : String} (h : IsAscii s) : lower (title s) = lower s := by
  obtain ⟨ds, hds, hascii, hlower⟩ := titleRest_of_ascii s.toList [] [] h
  have htitle : (title s).toList = ds := by
    rw [title, hds]
    simp
  have htitleAscii : IsAscii (title s) := by
    rwa [IsAscii, htitle]
  rw [lower_of_ascii htitleAscii, lower_of_ascii h, htitle, hlower]

end HttpKit.Text
