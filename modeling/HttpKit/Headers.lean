import HttpKit.Json
import HttpKit.Text.Casing
import HttpKit.Text.Quoted

/-!
# Headers

An ordered list of names and values in which no name occurs twice in any casing. A name that is
written again keeps its place and takes the new spelling and the new value. Main statements: the
lemmas on `keys`, which give the invariant of the type.

Names and values are texts of any type that has a lower case; those of a request hold characters
alone, those of a response may hold surrogates.
-/

namespace HttpKit

open Text (HasLower)

/-- A header with the key under which it is found: its name in lower case. -/
structure Header (τ : Type := String) where
  key : τ
  name : τ
  value : τ
  deriving DecidableEq, Repr

namespace Header

variable {τ : Type} [DecidableEq τ]

/-- The header of a name and a value. -/
def of [HasLower τ] (name value : τ) : Header τ := ⟨Text.lower name, name, value⟩

/-- The name and the value. -/
def toPair (h : Header τ) : τ × τ := (h.name, h.value)

/-- Writes a header: in place of the one with its key, else at the end. -/
def write (h : Header τ) : List (Header τ) → List (Header τ)
  | [] => [h]
  | x :: rest => if x.key = h.key then h :: rest else x :: write h rest

/-- The keys after a write. -/
theorem map_key_write (h : Header τ) (entries : List (Header τ)) :
    (write h entries).map key
      = if h.key ∈ entries.map key then entries.map key else entries.map key ++ [h.key] := by
  induction entries with
  | nil => simp [write]
  | cons x rest ih =>
    by_cases hx : x.key = h.key
    · simp [write, hx]
    · have hx' : ¬h.key = x.key := fun e => hx e.symm
      by_cases hm : h.key ∈ rest.map key
      · rw [if_pos hm] at ih
        simp only [write, hx, if_false, List.map_cons, ih, List.mem_cons, hm, or_true, if_true]
      · rw [if_neg hm] at ih
        simp only [write, hx, if_false, List.map_cons, ih, List.mem_cons, hm, hx', or_self,
          if_false, List.cons_append]

/-- A write keeps the keys distinct. -/
theorem nodup_write (h : Header τ) {entries : List (Header τ)} (hn : (entries.map key).Nodup) :
    ((write h entries).map key).Nodup := by
  rw [map_key_write]
  split
  · exact hn
  · rename_i hm
    rw [List.nodup_append]
    exact ⟨hn, by simp, fun a ha b hb e => hm (by simp at hb; subst hb; exact e ▸ ha)⟩

/-- What is there after a write was there or is the header written. -/
theorem mem_write {h x : Header τ} {entries : List (Header τ)} (hx : x ∈ write h entries) :
    x = h ∨ x ∈ entries := by
  induction entries with
  | nil => simpa [write] using hx
  | cons y rest ih =>
    unfold write at hx
    split at hx
    · rcases List.mem_cons.1 hx with rfl | hx
      · exact .inl rfl
      · exact .inr (List.mem_cons_of_mem _ hx)
    · rcases List.mem_cons.1 hx with rfl | hx
      · exact .inr List.mem_cons_self
      · exact (ih hx).imp_right (List.mem_cons_of_mem _)

end Header

/-- Headers in the order in which their names were first written. -/
structure Headers (τ : Type := String) [HasLower τ] where
  entries : List (Header τ)
  keyed : ∀ h ∈ entries, h.key = Text.lower h.name
  distinct : (entries.map Header.key).Nodup

namespace Headers

variable {τ : Type} [HasLower τ]

/-- No headers. -/
def empty : Headers τ := ⟨[], by simp, by simp⟩

instance : Inhabited (Headers τ) := ⟨empty⟩

/-- The rest of what is known of headers follows from their entries. -/
theorem eq_of_entries {a b : Headers τ} (h : a.entries = b.entries) : a = b := by
  cases a
  cases b
  simpa using h

variable [DecidableEq τ]

/-- Sets a header. -/
def insert (hs : Headers τ) (name value : τ) : Headers τ where
  entries := Header.write (.of name value) hs.entries
  keyed := fun h hh => by
    rcases Header.mem_write hh with rfl | hh
    · rfl
    · exact hs.keyed h hh
  distinct := Header.nodup_write _ hs.distinct

/-- Sets one header after the other. -/
def insertAll (hs : Headers τ) (pairs : List (τ × τ)) : Headers τ :=
  pairs.foldl (fun acc pair => acc.insert pair.1 pair.2) hs

/-- The headers written one after the other. -/
def ofList (pairs : List (τ × τ)) : Headers τ := empty.insertAll pairs

/-- Names and values in order. -/
def toList (hs : Headers τ) : List (τ × τ) := hs.entries.map Header.toPair

/-- The number of headers. -/
def size (hs : Headers τ) : Nat := hs.entries.length

/-- The names as they were last written. -/
def names (hs : Headers τ) : List τ := hs.entries.map Header.name

/-- The values. -/
def values (hs : Headers τ) : List τ := hs.entries.map Header.value

/-- The value under a name in any casing. -/
def get? (hs : Headers τ) (name : τ) : Option τ :=
  let key := Text.lower name
  (hs.entries.find? (·.key = key)).map Header.value

/-- Whether a name in any casing is there. -/
def contains (hs : Headers τ) (name : τ) : Bool := (hs.get? name).isSome

/-- Sets those of the given headers whose names are absent. -/
def withDefaults (hs : Headers τ) (defaults : List (τ × τ)) : Headers τ :=
  hs.insertAll (defaults.filter fun pair => !hs.contains pair.1)

/-- The headers whose names, in any casing, are not listed. -/
def without (hs : Headers τ) (dropped : List τ) : Headers τ :=
  let keys := dropped.map Text.lower
  { entries := hs.entries.filter fun h => !keys.contains h.key
    keyed := fun h hh => hs.keyed h (List.mem_filter.1 hh).1
    distinct := (List.filter_sublist.map Header.key).nodup hs.distinct }

/-- Whether both hold the same names, as written, with the same values, in any order. -/
def agree (xs ys : Headers τ) : Bool :=
  xs.size = ys.size && xs.toList.all ys.toList.contains

/-- The headers as they are shown in messages. -/
def display (hs : Headers) : String :=
  let items := hs.toList.map fun pair => Text.quoted pair.1 ++ ": " ++ Text.quoted pair.2
  "Headers(\x7b" ++ ", ".intercalate items ++ "\x7d)"

/-- A key under which nothing is found. -/
structure Missing where
  key : Json

/-- What is said about it. -/
def Missing.message (e : Missing) : String := e.key.display

/-- The value under a key. A datum that is no text is a key of nothing; a text is reported in
lower case. -/
def lookup (hs : Headers) : Json → Except Missing String
  | .text name =>
    match hs.get? name with
    | some value => .ok value
    | none => .error ⟨.text (Text.lower name)⟩
  | key => .error ⟨key⟩

/-- The value under a key, if there is one. -/
def lookup? (hs : Headers) (key : Json) : Option String := (hs.lookup key).toOption

end Headers

end HttpKit
