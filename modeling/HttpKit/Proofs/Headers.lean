import HttpKit.Headers
import Mathlib.Data.List.Nodup

/-!
# Headers under distinct names

Writing a header puts it in the place of the one with its key, or at the end when there is none.
So pairs whose names are distinct in lower case come out as they went in (`toList_ofList`), and the
value found under a name is that of the pair with the name (`get?_ofList`).

A name has at most one value (`valuesOf_eq_get?`): the last one written (`get?_insert`), or the
default when none was (`get?_withDefaults`).
-/

namespace HttpKit

open Text (HasLower)

variable {τ : Type}

/-- Whether two names are the same in any casing. -/
def SameName [HasLower τ] (a b : τ) : Prop := Text.lower a = Text.lower b

variable [DecidableEq τ]

instance [HasLower τ] (a b : τ) : Decidable (SameName a b) := inferInstanceAs (Decidable (_ = _))

/-! ## Writing a header -/

/-- A header whose key is absent is written at the end. -/
theorem Header.write_of_not_mem {h : Header τ} {entries : List (Header τ)}
    (hm : h.key ∉ entries.map key) : write h entries = entries ++ [h] := by
  induction entries with
  | nil => rfl
  | cons x rest ih =>
    rw [List.map_cons, List.mem_cons, not_or] at hm
    obtain ⟨hx, hrest⟩ := hm
    rw [write, if_neg (Ne.symm hx), ih hrest, List.cons_append]

/-- Of the headers, at most the one with the key is replaced. -/
theorem Header.write_eq (h : Header τ) {entries : List (Header τ)} (hn : (entries.map key).Nodup) :
    write h entries
      = if h.key ∈ entries.map key then entries.map fun x => if x.key = h.key then h else x
        else entries ++ [h] := by
  induction entries with
  | nil => rfl
  | cons x rest ih =>
    rw [List.map_cons, List.nodup_cons] at hn
    obtain ⟨hx, hrest⟩ := hn
    rw [write]
    split
    · next hk =>
      have hothers : rest.map (fun x => if x.key = h.key then h else x) = rest := by
        refine (List.map_congr_left fun y hy => if_neg fun hy' => ?_).trans (List.map_id _)
        exact hx (List.mem_map.mpr ⟨y, hy, hy'.trans hk.symm⟩)
      rw [List.map_cons, if_pos (hk ▸ List.mem_cons_self), List.map_cons, if_pos hk, hothers]
    · next hk =>
      have hmem : h.key ∈ (x :: rest).map key ↔ h.key ∈ rest.map key := by
        rw [List.map_cons, List.mem_cons, or_iff_right (Ne.symm hk)]
      rw [ih hrest]
      by_cases hm : h.key ∈ rest.map key
      · rw [if_pos hm, if_pos (hmem.mpr hm), List.map_cons, if_neg hk]
      · rw [if_neg hm, if_neg (mt hmem.mp hm), List.cons_append]

/-- What is found under a key after a header was written. -/
theorem Header.find?_write (h : Header τ) (k : τ) (entries : List (Header τ)) :
    (write h entries).find? (·.key = k)
      = if h.key = k then some h else entries.find? (·.key = k) := by
  induction entries with
  | nil =>
    by_cases hk : h.key = k <;> simp [write, hk]
  | cons x rest ih =>
    rw [write]
    split
    · next hx =>
      by_cases hk : h.key = k
      · simp [hk]
      · simp [hk, hx]
    · next hx =>
      by_cases hk : x.key = k
      · have hne : h.key ≠ k := fun e => hx (hk.trans e.symm)
        simp [hk, hne]
      · simp [hk, ih]

/-- A write leaves the headers under other keys alone. -/
theorem Header.mem_write_iff {h x : Header τ} {entries : List (Header τ)}
    (hn : (entries.map Header.key).Nodup) :
    x ∈ write h entries ↔ x = h ∨ x ∈ entries ∧ x.key ≠ h.key := by
  induction entries with
  | nil => simp [write]
  | cons y rest ih =>
    rw [List.map_cons, List.nodup_cons] at hn
    obtain ⟨hy, hrest⟩ := hn
    rw [write]
    split
    · next hk =>
      have hne : x ∈ rest → x.key ≠ h.key := fun hx e =>
        hy (List.mem_map.mpr ⟨x, hx, e.trans hk.symm⟩)
      rw [List.mem_cons, List.mem_cons]
      constructor
      · rintro (rfl | hx)
        · exact Or.inl rfl
        · exact Or.inr ⟨Or.inr hx, hne hx⟩
      · rintro (rfl | ⟨rfl | hx, hxk⟩)
        · exact Or.inl rfl
        · exact absurd hk hxk
        · exact Or.inr hx
    · next hk =>
      rw [List.mem_cons, ih hrest, List.mem_cons]
      constructor
      · rintro (rfl | rfl | ⟨hx, hxk⟩)
        · exact Or.inr ⟨Or.inl rfl, hk⟩
        · exact Or.inl rfl
        · exact Or.inr ⟨Or.inr hx, hxk⟩
      · rintro (rfl | ⟨rfl | hx, hxk⟩)
        · exact Or.inr (Or.inl rfl)
        · exact Or.inl rfl
        · exact Or.inr (Or.inr ⟨hx, hxk⟩)

/-- Where keys are distinct at most one header has a key. -/
theorem Header.filter_key_eq {entries : List (Header τ)} (hn : (entries.map key).Nodup) (k : τ) :
    entries.filter (·.key = k) = (entries.find? (·.key = k)).toList := by
  induction entries with
  | nil => rfl
  | cons x rest ih =>
    rw [List.map_cons, List.nodup_cons] at hn
    by_cases hx : x.key = k
    · have hrest : rest.filter (·.key = k) = [] := by
        rw [List.filter_eq_nil_iff]
        intro y hy hk
        exact hn.1 (List.mem_map.mpr ⟨y, hy, (of_decide_eq_true hk).trans hx.symm⟩)
      simp [hx, hrest]
    · simp [hx, ih hn.2]

namespace Headers

variable [HasLower τ]

/-! ## Pairs under distinct names -/

/-- The key of each pair. -/
def keysOf (pairs : List (τ × τ)) : List τ := pairs.map (Text.lower ·.1)

/-- Pairs under new and distinct keys are written at the end, in order. -/
theorem entries_insertAll {pairs : List (τ × τ)} : ∀ (hs : Headers τ),
    (hs.entries.map Header.key ++ keysOf pairs).Nodup →
    (hs.insertAll pairs).entries = hs.entries ++ pairs.map fun p => Header.of p.1 p.2 := by
  induction pairs with
  | nil =>
    intro hs _
    simp [insertAll]
  | cons p pairs ih =>
    intro hs hn
    have hp : (Header.of p.1 p.2).key ∉ hs.entries.map Header.key := by
      intro hm
      exact List.disjoint_of_nodup_append hn hm (List.mem_cons_self)
    have hentries : (hs.insert p.1 p.2).entries = hs.entries ++ [Header.of p.1 p.2] :=
      Header.write_of_not_mem hp
    show ((hs.insert p.1 p.2).insertAll pairs).entries = _
    rw [ih, hentries, List.append_assoc]
    · rfl
    · rw [hentries, List.map_append, List.append_assoc]
      exact hn

theorem entries_ofList {pairs : List (τ × τ)} (hn : (keysOf pairs).Nodup) :
    (ofList pairs).entries = pairs.map fun p => Header.of p.1 p.2 :=
  entries_insertAll empty hn

/-- **Pairs under distinct names are kept as they are, in order.** -/
theorem toList_ofList {pairs : List (τ × τ)} (hn : (keysOf pairs).Nodup) :
    (ofList pairs).toList = pairs := by
  rw [toList, entries_ofList hn, List.map_map]
  exact List.map_id pairs

theorem get?_ofList {pairs : List (τ × τ)} (hn : (keysOf pairs).Nodup) (name : τ) :
    (ofList pairs).get? name
      = (pairs.find? fun p => Text.lower p.1 = Text.lower name).map Prod.snd := by
  rw [get?, entries_ofList hn, List.find?_map, Option.map_map]
  rfl

omit [DecidableEq τ] in
theorem keysOf_toList (hs : Headers τ) : keysOf hs.toList = hs.entries.map Header.key := by
  rw [keysOf, toList, List.map_map]
  exact List.map_congr_left fun h hh => (hs.keyed h hh).symm

omit [DecidableEq τ] in
theorem nodup_keysOf_toList (hs : Headers τ) : (keysOf hs.toList).Nodup :=
  hs.keysOf_toList ▸ hs.distinct

/-- Headers are those of their names and values. -/
theorem ofList_toList (hs : Headers τ) : ofList hs.toList = hs := by
  have hkeyed : ∀ h ∈ hs.entries, Header.of h.name h.value = h := by
    intro h hh
    rw [Header.of, ← hs.keyed h hh]
  refine eq_of_entries ?_
  rw [entries_ofList hs.nodup_keysOf_toList, toList, List.map_map]
  exact (List.map_congr_left hkeyed).trans (List.map_id _)

/-! ## What is found under a name -/

theorem get?_insert (hs : Headers τ) (name value other : τ) :
    (hs.insert name value).get? other
      = if Text.lower name = Text.lower other then some value else hs.get? other := by
  show ((Header.write _ _).find? _).map _ = _
  rw [Header.find?_write]
  show (if Text.lower name = Text.lower other then _ else _ : Option (Header τ)).map _ = _
  split <;> rfl

theorem contains_eq_false_iff {hs : Headers τ} {name : τ} :
    hs.contains name = false ↔ Text.lower name ∉ hs.entries.map Header.key := by
  simp [contains, get?, List.find?_eq_none]

theorem get?_congr (hs : Headers τ) {a b : τ} (h : Text.lower a = Text.lower b) :
    hs.get? a = hs.get? b := by
  rw [get?, get?, h]

/-- Defaults whose names are absent come last, in order. -/
theorem entries_withDefaults (hs : Headers τ) {defaults : List (τ × τ)}
    (hn : (keysOf defaults).Nodup) :
    (hs.withDefaults defaults).entries
      = hs.entries ++ (defaults.filter fun p => !hs.contains p.1).map fun p =>
          Header.of p.1 p.2 := by
  refine entries_insertAll hs (List.nodup_append'.mpr ⟨hs.distinct, ?_, ?_⟩)
  · exact (List.filter_sublist.map _).nodup hn
  · intro k hk hm
    obtain ⟨p, hp, rfl⟩ := List.mem_map.mp hm
    have hp' : hs.contains p.1 = false := by simpa using (List.mem_filter.mp hp).2
    exact contains_eq_false_iff.mp hp' hk

theorem get?_withDefaults (hs : Headers τ) {defaults : List (τ × τ)}
    (hn : (keysOf defaults).Nodup) (name : τ) :
    (hs.withDefaults defaults).get? name
      = (hs.get? name).or
          ((defaults.find? fun p => Text.lower p.1 = Text.lower name).map Prod.snd) := by
  rw [get?, entries_withDefaults hs hn, List.find?_append, Option.map_or]
  show (hs.get? name).or _ = _
  cases hg : hs.get? name with
  | some value => rfl
  | none =>
    rw [Option.none_or, Option.none_or, List.find?_map, Option.map_map, List.find?_filter]
    -- Where nothing is found under the name, the default that has it was not left out.
    refine congrArg (Option.map _) (congrArg (List.find? · defaults) (funext fun p => ?_))
    by_cases hp : Text.lower p.1 = Text.lower name
    · have hkey : (Header.of p.1 p.2).key = Text.lower name := hp
      simp [contains, get?_congr hs hp, hg, hp, hkey]
    · have hkey : (Header.of p.1 p.2).key ≠ Text.lower name := hp
      simp [hp, hkey]

/-- The values under a name in any casing, in order. -/
def valuesOf (hs : Headers τ) (name : τ) : List τ :=
  (hs.toList.filter fun p => Text.lower p.1 = Text.lower name).map Prod.snd

/-- There is at most one value under a name. -/
theorem valuesOf_eq_get? (hs : Headers τ) (name : τ) :
    hs.valuesOf name = (hs.get? name).toList := by
  have hkeys : hs.toList.filter (fun p => Text.lower p.1 = Text.lower name)
      = (hs.entries.filter (·.key = Text.lower name)).map Header.toPair := by
    rw [toList, List.filter_map]
    refine congrArg _ (List.filter_congr fun h hh => ?_)
    rw [hs.keyed h hh]
    rfl
  rw [valuesOf, hkeys, Header.filter_key_eq hs.distinct, get?]
  cases hs.entries.find? (·.key = Text.lower name) <;> rfl

/-! ## Which headers there are -/

theorem mem_toList_insert {hs : Headers τ} {name value : τ} {p : τ × τ} :
    p ∈ (hs.insert name value).toList
      ↔ p = (name, value) ∨ p ∈ hs.toList ∧ ¬SameName p.1 name := by
  have hkey : ∀ {x}, x ∈ hs.entries → (x.key ≠ Text.lower name ↔ ¬SameName x.toPair.1 name) :=
    fun hx => by
      rw [hs.keyed _ hx]
      exact Iff.rfl
  have hwrite : ∀ x, x ∈ (hs.insert name value).entries
      ↔ x = .of name value ∨ x ∈ hs.entries ∧ x.key ≠ Text.lower name := fun x =>
    Header.mem_write_iff hs.distinct
  simp only [toList, List.mem_map, hwrite]
  constructor
  · rintro ⟨x, rfl | ⟨hx, hne⟩, rfl⟩
    · exact Or.inl rfl
    · exact Or.inr ⟨⟨x, hx, rfl⟩, (hkey hx).mp hne⟩
  · rintro (rfl | ⟨⟨x, hx, rfl⟩, hne⟩)
    · exact ⟨.of name value, Or.inl rfl, rfl⟩
    · exact ⟨x, Or.inr ⟨hx, (hkey hx).mpr hne⟩, rfl⟩

theorem mem_toList_withDefaults {hs : Headers τ} {defaults : List (τ × τ)}
    (hn : (keysOf defaults).Nodup) {p : τ × τ} :
    p ∈ (hs.withDefaults defaults).toList
      ↔ p ∈ hs.toList ∨ p ∈ defaults ∧ hs.contains p.1 = false := by
  rw [toList, entries_withDefaults hs hn, List.map_append, List.mem_append, List.map_map]
  refine or_congr_right ?_
  rw [show Header.toPair ∘ (fun p : τ × τ => Header.of p.1 p.2) = id from rfl,
    List.map_id, List.mem_filter]
  simp

/-- Headers are among those that were written. -/
theorem mem_of_mem_toList_insertAll {pairs : List (τ × τ)} {p : τ × τ} :
    ∀ {hs : Headers τ}, p ∈ (hs.insertAll pairs).toList → p ∈ hs.toList ∨ p ∈ pairs := by
  induction pairs with
  | nil => exact fun h => Or.inl h
  | cons pair pairs ih =>
    intro hs h
    have hafter : p ∈ ((hs.insert pair.1 pair.2).insertAll pairs).toList := h
    rcases ih hafter with h | h
    · rcases mem_toList_insert.mp h with rfl | ⟨h, -⟩
      · exact Or.inr List.mem_cons_self
      · exact Or.inl h
    · exact Or.inr (List.mem_cons_of_mem _ h)

theorem mem_of_mem_toList_ofList {pairs : List (τ × τ)} {p : τ × τ}
    (h : p ∈ (ofList pairs).toList) : p ∈ pairs :=
  (mem_of_mem_toList_insertAll h).resolve_left List.not_mem_nil

end Headers

end HttpKit
