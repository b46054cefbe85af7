import HttpKit.Proofs.Headers
import HttpKit.Proofs.Versions

/-!
# Headers as an ordered map

The reference is a plain list of entries. Writing an entry looks for one whose name is the same in
lower case: if there is one it is replaced where it stands, name and value, and otherwise the entry
is put at the end. Nothing else is kept, no keys and no invariant.

## How the argument goes

* one header is written into the entries as the reference writes it (`toList_insert`). Only here the
  keys matter, as at most one entry is replaced
* hence the same holds of many headers, of defaults and of what is left without some names
  (`toList_withDefaults`, `toList_without`), and so of every change (`Represents.changed`)
* what is found is read off the entries (`represents`)

`represents_versions` repeats this along every history of versions, where each change is made to any
version that there is.
-/

namespace HttpKit

open Text (HasLower)

variable {τ : Type} [HasLower τ] [DecidableEq τ]

/-! ## The reference -/

/-- Names and values in the order in which the names were first written. -/
abbrev Entries (τ : Type := String) := List (τ × τ)

namespace Entries

/-- Whether an entry has the name. -/
def Holds (es : Entries τ) (name : τ) : Prop := ∃ e ∈ es, SameName e.1 name

instance (es : Entries τ) (name : τ) : Decidable (es.Holds name) :=
  inferInstanceAs (Decidable (∃ e ∈ es, SameName e.1 name))

/-- No name twice. -/
def Distinct (es : Entries τ) : Prop := (es.map fun e => Text.lower e.1).Nodup

/-- Writes an entry: in place of the one with its name, else at the end. -/
def write (es : Entries τ) (entry : τ × τ) : Entries τ :=
  if es.Holds entry.1 then es.map fun e => if SameName e.1 entry.1 then entry else e
  else es ++ [entry]

/-- Writes one entry after the other. -/
def writeAll (es new : Entries τ) : Entries τ := new.foldl write es

end Entries

/-- What is made of headers. -/
inductive HeaderChange where
  | set (name value : String)
  | defaults (pairs : List (String × String))
  | drop (names : List String)

/-- The headers after a change. -/
def Headers.changed (hs : Headers) : HeaderChange → Headers
  | .set name value => hs.insert name value
  | .defaults pairs => hs.withDefaults pairs
  | .drop names => hs.without names

/-- The entries after a change. Of the defaults, those are written whose names are absent before
any of them is written. -/
def Entries.changed (es : Entries) : HeaderChange → Entries
  | .set name value => es.write (name, value)
  | .defaults pairs => es.writeAll (pairs.filter fun p => ¬es.Holds p.1)
  | .drop names => es.filter fun e => ¬∃ name ∈ names, SameName e.1 name

/-- All versions of headers that start with the given pairs. -/
def Headers.versions (source : List (String × String)) (steps : List (Nat × HeaderChange)) :
    List Headers :=
  Versions.history (fun hs change => some (hs.changed change)) (.ofList source) steps

/-- All versions of entries that start with the given pairs. -/
def Entries.versions (source : List (String × String)) (steps : List (Nat × HeaderChange)) :
    List Entries :=
  Versions.history (fun es change => some (es.changed change)) (writeAll [] source) steps

/-- Headers that hold the given entries, and of which nothing else can be found out. -/
structure Headers.Represents (hs : Headers) (es : Entries) : Prop where
  items : hs.toList = es
  distinct : es.Distinct
  names : hs.names = es.map Prod.fst
  values : hs.values = es.map Prod.snd
  size : hs.size = es.length
  /-- The value of an entry is found under its name in any casing. -/
  present : ∀ e ∈ es, ∀ name, SameName e.1 name →
    hs.contains name = true ∧ hs.lookup (.text name) = .ok e.2
      ∧ hs.lookup? (.text name) = some e.2
  /-- A name that no entry has is reported in lower case. -/
  absent : ∀ name, ¬es.Holds name →
    hs.contains name = false ∧ hs.lookup (.text name) = .error ⟨.text (Text.lower name)⟩
      ∧ hs.lookup? (.text name) = none
  /-- Nothing is found under what is no name. -/
  datum : ∀ key, (∀ name, key ≠ .text name) →
    hs.lookup key = .error ⟨key⟩ ∧ hs.lookup? key = none

/-! ## Writing -/

/-- Where every entry with a name is left out, writing one makes no difference. -/
theorem Entries.filter_write {keep : τ × τ → Bool} {entry : τ × τ}
    (h : ∀ e : τ × τ, SameName e.1 entry.1 → keep e = false) (es : Entries τ) :
    (es.write entry).filter keep = es.filter keep := by
  have hentry : keep entry = false := h entry rfl
  have hmap : (es.map fun e => if SameName e.1 entry.1 then entry else e).filter keep
      = es.filter keep := by
    induction es with
    | nil => rfl
    | cons e es ih =>
      by_cases he : SameName e.1 entry.1
      · rw [List.map_cons, if_pos he, List.filter_cons_of_neg (by simp [hentry]),
          List.filter_cons_of_neg (by simp [h e he]), ih]
      · rw [List.map_cons, if_neg he, List.filter_cons, List.filter_cons, ih]
  rw [write]
  split
  · exact hmap
  · rw [List.filter_append, List.filter_cons_of_neg (by simp [hentry]), List.filter_nil,
      List.append_nil]

/-- Of two values under one name only the later is kept. -/
theorem Entries.write_write (es : Entries τ) (name first value : τ) :
    (es.write (name, first)).write (name, value) = es.write (name, value) := by
  have hsame : SameName (name, first).1 (name, value).1 := rfl
  by_cases hes : es.Holds name
  · have hwrite : ∀ value, es.write (name, value)
        = es.map fun e => if SameName e.1 name then (name, value) else e := fun _ => if_pos hes
    have hholds : (es.write (name, first)).Holds name := by
      obtain ⟨e, he, hname⟩ := hes
      exact ⟨(name, first), hwrite first ▸ List.mem_map.mpr ⟨e, he, if_pos hname⟩, rfl⟩
    rw [write, if_pos hholds, hwrite, hwrite, List.map_map]
    refine List.map_congr_left fun e _ => ?_
    by_cases he : SameName e.1 name
    · rw [Function.comp_apply, if_pos he, if_pos he, if_pos hsame]
    · rw [Function.comp_apply, if_neg he, if_neg he]
  · have hwrite : ∀ value, es.write (name, value) = es ++ [(name, value)] := fun _ => if_neg hes
    have hholds : (es ++ [(name, first)]).Holds name :=
      ⟨(name, first), List.mem_append_right _ (List.mem_singleton.mpr rfl), rfl⟩
    have hold : (es.map fun e => if SameName e.1 name then (name, value) else e) = es :=
      (List.map_congr_left fun e he => if_neg fun hname => hes ⟨e, he, hname⟩).trans
        (List.map_id es)
    rw [hwrite, hwrite, write, if_pos hholds, List.map_append, hold, List.map_singleton,
      if_pos hsame]

namespace Headers

omit [DecidableEq τ] in
theorem mem_map_key_iff (hs : Headers τ) (name : τ) :
    Text.lower name ∈ hs.entries.map Header.key ↔ Entries.Holds hs.toList name := by
  rw [← keysOf_toList, keysOf, List.mem_map]
  rfl

/-- **A header is written as an entry is.** -/
theorem toList_insert (hs : Headers τ) (name value : τ) :
    (hs.insert name value).toList = Entries.write hs.toList (name, value) := by
  show (Header.write (.of name value) hs.entries).map Header.toPair = _
  have hkey : (Header.of name value).key ∈ hs.entries.map Header.key
      ↔ Entries.Holds hs.toList name := hs.mem_map_key_iff name
  rw [Header.write_eq _ hs.distinct, Entries.write]
  by_cases hm : Entries.Holds hs.toList name
  · rw [if_pos (hkey.mpr hm), if_pos hm, toList, List.map_map, List.map_map]
    refine List.map_congr_left fun x hx => ?_
    have hsame : x.key = (Header.of name value).key ↔ SameName x.toPair.1 name := by
      rw [hs.keyed x hx]
      rfl
    by_cases hk : SameName x.toPair.1 name
    · simp only [Function.comp_apply, if_pos (hsame.mpr hk), if_pos hk]
      rfl
    · simp only [Function.comp_apply, if_neg (mt hsame.mp hk), if_neg hk]
  · rw [if_neg (mt hkey.mp hm), if_neg hm, List.map_append]
    rfl

/-- Of two values under one name only the later is kept. -/
theorem insert_insert (hs : Headers τ) (name first value : τ) :
    (hs.insert name first).insert name value = hs.insert name value := by
  rw [← ofList_toList ((hs.insert name first).insert name value),
    ← ofList_toList (hs.insert name value), toList_insert, toList_insert, toList_insert,
    Entries.write_write]

theorem toList_insertAll (hs : Headers τ) (pairs : List (τ × τ)) :
    (hs.insertAll pairs).toList = Entries.writeAll hs.toList pairs := by
  induction pairs generalizing hs with
  | nil => rfl
  | cons p pairs ih =>
    show ((hs.insert p.1 p.2).insertAll pairs).toList = _
    rw [ih, toList_insert]
    rfl

theorem contains_eq_true_iff {hs : Headers τ} {name : τ} :
    hs.contains name = true ↔ Entries.Holds hs.toList name := by
  rw [← mem_map_key_iff, ← not_iff_not, Bool.not_eq_true, contains_eq_false_iff]

/-- **Defaults are written where their names are absent.** -/
theorem toList_withDefaults (hs : Headers τ) (defaults : List (τ × τ)) :
    (hs.withDefaults defaults).toList
      = Entries.writeAll hs.toList (defaults.filter fun p => ¬Entries.Holds hs.toList p.1) := by
  rw [withDefaults, toList_insertAll]
  refine congrArg _ (List.filter_congr fun p _ => ?_)
  rw [Bool.eq_iff_iff, Bool.not_eq_true', decide_eq_true_iff, ← contains_eq_true_iff,
    Bool.not_eq_true]

/-- **Every entry with a name that is listed is left out.** -/
theorem toList_without (hs : Headers τ) (names : List τ) :
    (hs.without names).toList
      = hs.toList.filter fun e => ¬∃ name ∈ names, SameName e.1 name := by
  show (hs.entries.filter _).map Header.toPair = (hs.entries.map Header.toPair).filter _
  rw [List.filter_map]
  refine congrArg _ (List.filter_congr fun x hx => ?_)
  rw [Bool.eq_iff_iff, Bool.not_eq_true', Function.comp_apply, decide_eq_true_iff,
    ← Bool.not_eq_true, not_iff_not, List.contains_iff_mem, List.mem_map, hs.keyed x hx]
  exact exists_congr fun name => and_congr_right fun _ => eq_comm

/-- What is left out leaves no trace of having been written. -/
theorem toList_without_insert (hs : Headers τ) {name : τ} (value : τ)
    {names : List τ} (h : ∃ other ∈ names, SameName name other) :
    ((hs.insert name value).without names).toList = (hs.without names).toList := by
  rw [toList_without, toList_without, toList_insert, Entries.filter_write]
  exact fun e he => by
    obtain ⟨other, hother, hname⟩ := h
    exact decide_eq_false (not_not_intro ⟨other, hother, Eq.trans he hname⟩)

theorem toList_changed (hs : Headers) (change : HeaderChange) :
    (hs.changed change).toList = Entries.changed hs.toList change := by
  cases change with
  | set name value => exact hs.toList_insert name value
  | defaults pairs => exact hs.toList_withDefaults pairs
  | drop names => exact hs.toList_without names

/-! ## What is found -/

/-- The value under a name is that of the entry with the name, of which there is only one. -/
theorem get?_of_mem {hs : Headers τ} {e : τ × τ} (he : e ∈ hs.toList) {name : τ}
    (hname : SameName e.1 name) : hs.get? name = some e.2 := by
  have hvalue : e.2 ∈ hs.valuesOf name :=
    List.mem_map_of_mem (List.mem_filter.mpr ⟨he, decide_eq_true hname⟩)
  rw [valuesOf_eq_get?] at hvalue
  exact Option.mem_toList.mp hvalue

theorem get?_eq_none_iff {hs : Headers τ} {name : τ} :
    hs.get? name = none ↔ ¬Entries.Holds hs.toList name := by
  rw [← contains_eq_true_iff, contains, Bool.not_eq_true, Option.isSome_eq_false_iff,
    Option.isNone_iff_eq_none]

theorem lookup_text (hs : Headers) (name : String) :
    hs.lookup (.text name)
      = match hs.get? name with
        | some value => .ok value
        | none => .error ⟨.text (Text.lower name)⟩ := rfl

/-- **Headers show nothing but their entries.** -/
theorem represents (hs : Headers) : hs.Represents hs.toList where
  items := rfl
  distinct := hs.nodup_keysOf_toList
  names := by rw [names, toList, List.map_map]; rfl
  values := by rw [values, toList, List.map_map]; rfl
  size := by rw [size, toList, List.length_map]
  present := by
    intro e he name hname
    have hget := get?_of_mem he hname
    have hlookup : hs.lookup (.text name) = .ok e.2 := by rw [lookup_text, hget]
    exact ⟨by rw [contains, hget]; rfl, hlookup, by rw [lookup?, hlookup]; rfl⟩
  absent := by
    intro name hname
    have hget := get?_eq_none_iff.mpr hname
    have hlookup : hs.lookup (.text name) = .error ⟨.text (Text.lower name)⟩ := by
      rw [lookup_text, hget]
    exact ⟨by rw [contains, hget]; rfl, hlookup, by rw [lookup?, hlookup]; rfl⟩
  datum := by
    intro key hkey
    have hlookup : hs.lookup key = .error ⟨key⟩ := by
      cases key with
      | text name => exact absurd rfl (hkey name)
      | _ => rfl
    exact ⟨hlookup, by rw [lookup?, hlookup]; rfl⟩

/-! ## Versions -/

theorem Represents.changed {hs : Headers} {es : Entries} (h : hs.Represents es)
    (change : HeaderChange) : (hs.changed change).Represents (es.changed change) := by
  obtain rfl := h.items
  rw [← toList_changed]
  exact (hs.changed change).represents

theorem represents_ofList (source : List (String × String)) :
    (ofList source).Represents (Entries.writeAll [] source) := by
  have hsource : (ofList source).toList = Entries.writeAll [] source :=
    toList_insertAll empty source
  rw [← hsource]
  exact (ofList source).represents

/-- Under a name the value is found that was written last. -/
theorem get?_insertAll (hs : Headers τ) (pairs : List (τ × τ)) (name : τ) :
    (hs.insertAll pairs).get? name
      = ((pairs.filter fun p => SameName p.1 name).getLast?.map Prod.snd).or (hs.get? name) := by
  induction pairs generalizing hs with
  | nil => rfl
  | cons p pairs ih =>
    show ((hs.insert p.1 p.2).insertAll pairs).get? name = _
    rw [ih, get?_insert]
    by_cases hp : SameName p.1 name
    · have hkey : Text.lower p.1 = Text.lower name := hp
      rw [if_pos hkey, List.filter_cons_of_pos (by simp [hp]), List.getLast?_cons]
      cases (pairs.filter fun p => SameName p.1 name).getLast? <;> rfl
    · have hkey : ¬Text.lower p.1 = Text.lower name := hp
      rw [if_neg hkey, List.filter_cons_of_neg (by simp [hp])]

theorem get?_ofList_eq_getLast? (pairs : List (τ × τ)) (name : τ) :
    (ofList pairs).get? name
      = (pairs.filter fun p => SameName p.1 name).getLast?.map Prod.snd := by
  rw [ofList, get?_insertAll]
  exact Option.or_none

/-- What is done to all values is done to the one that is found. -/
theorem get?_ofList_map (f : τ → τ) (pairs : List (τ × τ)) (name : τ) :
    (ofList (pairs.map fun p => (p.1, f p.2))).get? name = ((ofList pairs).get? name).map f := by
  rw [get?_ofList_eq_getLast?, get?_ofList_eq_getLast?, List.filter_map, List.getLast?_map,
    Option.map_map, Option.map_map]
  rfl

/-- A name that was written is there, whatever is written with it. -/
theorem contains_insertAll (hs : Headers τ) (pairs : List (τ × τ)) (name : τ) :
    (hs.insertAll pairs).contains name
      = (hs.contains name || pairs.any fun p => SameName p.1 name) := by
  induction pairs generalizing hs with
  | nil => simp [insertAll]
  | cons p pairs ih =>
    have hinsert : (hs.insert p.1 p.2).contains name
        = (decide (SameName p.1 name) || hs.contains name) := by
      rw [contains, get?_insert]
      by_cases hp : Text.lower p.1 = Text.lower name
      · simp [SameName, hp]
      · simp [SameName, hp, contains]
    show ((hs.insert p.1 p.2).insertAll pairs).contains name = _
    rw [ih, hinsert, List.any_cons]
    ac_rfl

/-- Once defaults were written none of their names is absent. -/
theorem contains_withDefaults (hs : Headers τ) {defaults : List (τ × τ)}
    {p : τ × τ} (hp : p ∈ defaults) : (hs.withDefaults defaults).contains p.1 = true := by
  rw [withDefaults, contains_insertAll]
  cases hc : hs.contains p.1 with
  | true => rfl
  | false =>
    rw [Bool.false_or, List.any_eq_true]
    exact ⟨p, List.mem_filter.mpr ⟨hp, by rw [hc]; rfl⟩, decide_eq_true rfl⟩

theorem withDefaults_withDefaults (hs : Headers τ) (defaults : List (τ × τ)) :
    (hs.withDefaults defaults).withDefaults defaults = hs.withDefaults defaults := by
  have hnone : (defaults.filter fun p => !(hs.withDefaults defaults).contains p.1) = [] := by
    rw [List.filter_eq_nil_iff]
    intro p hp
    rw [hs.contains_withDefaults hp]
    exact Bool.false_ne_true
  conv_lhs => rw [withDefaults, hnone]
  rfl

/-- **Headers are an ordered map under names in any casing.** Along every history of changes, each
of them made to any version that there is, every version holds the entries of the reference in its
order and shows nothing else, and stays as it is whatever is made later. Headers that are made anew
of their own entries are the same, and defaults that are written twice count once. -/
theorem represents_versions (source : List (String × String))
    (steps more : List (Nat × HeaderChange)) :
    List.Forall₂ Represents (versions source steps) (Entries.versions source steps)
      ∧ versions source steps <+: versions source (steps ++ more)
      ∧ ∀ hs : Headers, ofList hs.toList = hs
        ∧ ∀ defaults, (hs.withDefaults defaults).withDefaults defaults
          = hs.withDefaults defaults := by
  refine ⟨?_, Versions.history_prefix _ _ _, fun hs => ⟨ofList_toList hs, ?_⟩⟩
  · refine Versions.forall₂_history (represents_ofList source) ?_ steps
    intro hs es h change
    exact .some (h.changed change)
  · exact withDefaults_withDefaults hs

end Headers

end HttpKit
