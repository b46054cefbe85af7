/-!
# Pairs in the order of first writing

A name that is written again keeps its place and takes the new value. Main statements: `ofList`
keeps no name twice (`nodup_ofList`), and under a name it keeps what was written last
(`get?_ofList`).
-/

namespace HttpKit.Assoc

variable {α : Type}

/-- Writes a value under a name: in place if the name is there, at the end otherwise. -/
def insert (name : String) (value : α) : List (String × α) → List (String × α)
  | [] => [(name, value)]
  | pair :: rest =>
    if pair.1 = name then (name, value) :: rest else pair :: insert name value rest

/-- The pairs written one after the other. -/
def ofList (pairs : List (String × α)) : List (String × α) :=
  pairs.foldl (fun acc pair => insert pair.1 pair.2 acc) []

/-- The value under a name. -/
def get? (name : String) (pairs : List (String × α)) : Option α :=
  (pairs.find? (·.1 = name)).map Prod.snd

/-- Whether two lists without repeated names hold the same pairs, in any order. -/
def agree [BEq α] (xs ys : List (String × α)) : Bool :=
  xs.length = ys.length && xs.all fun pair => get? pair.1 ys == some pair.2

/-- The names after a write: a new one comes last. -/
theorem map_fst_insert (name : String) (value : α) (pairs : List (String × α)) :
    (insert name value pairs).map Prod.fst
      = if name ∈ pairs.map Prod.fst then pairs.map Prod.fst
        else pairs.map Prod.fst ++ [name] := by
  induction pairs with
  | nil => simp [insert]
  | cons pair rest ih =>
    by_cases h : pair.1 = name
    · simp [insert, h]
    · have h' : ¬name = pair.1 := fun e => h e.symm
      by_cases hm : name ∈ rest.map Prod.fst
      · rw [if_pos hm] at ih
        simp only [insert, h, if_false, List.map_cons, ih, List.mem_cons, hm, or_true, if_true]
      · rw [if_neg hm] at ih
        simp only [insert, h, if_false, List.map_cons, ih, List.mem_cons, hm, h', or_self,
          if_false, List.cons_append]

/-- A write keeps the names distinct. -/
theorem nodup_insert (name : String) (value : α) {pairs : List (String × α)}
    (h : (pairs.map Prod.fst).Nodup) : ((insert name value pairs).map Prod.fst).Nodup := by
  rw [map_fst_insert]
  split
  · exact h
  · rename_i hm
    rw [List.nodup_append]
    exact ⟨h, by simp, fun a ha b hb e => hm (by simp at hb; subst hb; exact e ▸ ha)⟩

/-- No name is kept twice. -/
theorem nodup_ofList (pairs : List (String × α)) : ((ofList pairs).map Prod.fst).Nodup := by
  have aux : ∀ (l acc : List (String × α)), (acc.map Prod.fst).Nodup →
      ((l.foldl (fun acc pair => insert pair.1 pair.2 acc) acc).map Prod.fst).Nodup := by
    intro l
    induction l with
    | nil => intro acc h; exact h
    | cons pair rest ih => intro acc h; exact ih _ (nodup_insert _ _ h)
  exact aux pairs [] List.nodup_nil

/-- A write is seen under its name and under no other. -/
theorem get?_insert (name key : String) (value : α) (pairs : List (String × α)) :
    get? key (insert name value pairs) = if name = key then some value else get? key pairs := by
  induction pairs with
  | nil => by_cases h : name = key <;> simp [insert, get?, h]
  | cons pair rest ih =>
    by_cases hp : pair.1 = name
    · subst hp
      by_cases h : pair.1 = key <;> simp [insert, get?, h]
    · by_cases hk : pair.1 = key
      · have hne : name ≠ key := fun h => hp (hk.trans h.symm)
        simp [insert, get?, hk, hne, hne.symm]
      · simpa [insert, get?, hp, hk] using ih

/-- What was written last under a name is found there. -/
theorem get?_ofList (name : String) (pairs : List (String × α)) :
    get? name (ofList pairs) = (pairs.filter (·.1 = name)).getLast?.map Prod.snd := by
  have aux : ∀ (l acc : List (String × α)),
      get? name (l.foldl (fun acc pair => insert pair.1 pair.2 acc) acc)
        = ((l.filter (·.1 = name)).getLast?.map Prod.snd).or (get? name acc) := by
    intro l
    induction l with
    | nil => intro acc; rfl
    | cons pair rest ih =>
      intro acc
      rw [List.foldl_cons, ih, get?_insert]
      by_cases h : pair.1 = name
      · cases hl : (rest.filter (·.1 = name)).getLast? <;> simp [h, hl, List.getLast?_cons]
      · simp [h]
  rw [ofList, aux]
  exact Option.or_none

end HttpKit.Assoc
