import HttpKit.Route.Trie
import Mathlib.Data.List.Induction

/-!
# What a route tree holds

A tree is fixed by the registrations that went into it, in order. What stands at its root and below
one of its children is said in terms of those registrations:

* `entry_ofEntries` — the entry of the root is the latest one registered there
* `get?_ofEntries` — the child for a text is the tree of the registrations that begin with it
* `slot_ofEntries` — the child for a variable is the tree of those that begin with a variable, and
  its name is the one given last

So following a path step by step is keeping fewer and fewer registrations, which is how dispatch is
specified.
-/

namespace HttpKit.Route

variable {α : Type}

/-! ## One registration -/

/-- Where a registration goes on below the child for a text. -/
def tailAfter? (text : String) : List Token × α → Option (List Token × α)
  | (.literal t :: rest, entry) => if t = text then some (rest, entry) else none
  | _ => none

/-- Where a registration goes on below the child for a variable, with the name it gives it. -/
def tailBelow? : List Token × α → Option (String × (List Token × α))
  | (.capture name :: rest, entry) => some (name, (rest, entry))
  | _ => none

theorem Branches.get?_update (text s : String) (f : Node α → Node α) : ∀ (bs : Branches α),
    (bs.update text f).get? s
      = if text = s then some (f ((bs.get? s).getD .empty)) else bs.get? s
  | .nil => by simp [update, get?]
  | .cons t child rest => by
    have ih := Branches.get?_update text s f rest
    by_cases ht : t = text
    · subst ht
      by_cases hs : t = s <;> simp [update, get?, hs]
    · rw [update, if_neg ht, get?, get?, ih]
      by_cases hs : text = s
      · subst hs
        simp [ht]
      · simp [hs]

theorem Node.entry_insert (x : List Token × α) (n : Node α) :
    (n.insert x.2 x.1).entry = if x.1 = [] then some x.2 else n.entry := by
  obtain ⟨tokens, entry⟩ := x
  obtain ⟨e, literals, slot⟩ := n
  match tokens with
  | [] => simp [Node.insert, Node.entry]
  | .literal t :: rest => simp [Node.insert, Node.entry]
  | .capture name :: rest => simp [Node.insert, Node.entry]

theorem Node.get?_insert (s : String) (x : List Token × α) (n : Node α) :
    (n.insert x.2 x.1).literals.get? s
      = match tailAfter? s x with
        | some y => some (((n.literals.get? s).getD .empty).insert y.2 y.1)
        | none => n.literals.get? s := by
  obtain ⟨tokens, entry⟩ := x
  obtain ⟨e, literals, slot⟩ := n
  match tokens with
  | [] => simp [Node.insert, Node.literals, tailAfter?]
  | .capture name :: rest => simp [Node.insert, Node.literals, tailAfter?]
  | .literal t :: rest =>
    simp only [Node.insert, Node.literals, tailAfter?, Branches.get?_update]
    by_cases h : t = s <;> simp [h]

theorem Node.slot_insert (x : List Token × α) (n : Node α) :
    (n.insert x.2 x.1).slot
      = match tailBelow? x with
        | some (name, y) => n.slot.update name (Node.insert y.2 y.1)
        | none => n.slot := by
  obtain ⟨tokens, entry⟩ := x
  obtain ⟨e, literals, slot⟩ := n
  match tokens with
  | [] => simp [Node.insert, Node.slot, tailBelow?]
  | .literal t :: rest => simp [Node.insert, Node.slot, tailBelow?]
  | .capture name :: rest => simp [Node.insert, Node.slot, tailBelow?]

/-! ## Registrations one after the other -/

/-- The tree of registrations made in order. -/
def Node.ofEntries (xs : List (List Token × α)) : Node α :=
  xs.foldl (fun node x => node.insert x.2 x.1) .empty

/-- The tree of registrations, if there are any. -/
def Node.ofEntries? (xs : List (List Token × α)) : Option (Node α) :=
  if xs = [] then none else some (.ofEntries xs)

/-- The child for a variable that has a name and holds registrations. -/
def Slot.ofEntries (name : Option String) (xs : List (List Token × α)) : Slot α :=
  match name with
  | .some name => .some name (.ofEntries xs)
  | .none => .none

@[simp]
theorem Node.ofEntries_concat (xs : List (List Token × α)) (x : List Token × α) :
    Node.ofEntries (xs ++ [x]) = (Node.ofEntries xs).insert x.2 x.1 := by
  simp [ofEntries, List.foldl_append]

/-- A further registration goes into the tree that is there, or into an empty one. -/
theorem Node.ofEntries?_concat (xs : List (List Token × α)) (x : List Token × α) :
    Node.ofEntries? (xs ++ [x]) = some (((Node.ofEntries? xs).getD .empty).insert x.2 x.1) := by
  by_cases h : xs = []
  · subst h
    rfl
  · simp [ofEntries?, h]

/-- **The entry at the root is the latest one registered there.** -/
theorem Node.entry_ofEntries (xs : List (List Token × α)) :
    (Node.ofEntries xs).entry = ((xs.filter (·.1 = [])).getLast?).map Prod.snd := by
  induction xs using List.reverseRecOn with
  | nil => rfl
  | append_singleton xs x ih =>
    rw [ofEntries_concat, entry_insert, ih, List.filter_append]
    by_cases hx : x.1 = [] <;> simp [hx]

/-- **The child for a text is the tree of the registrations that begin with the text.** -/
theorem Node.get?_ofEntries (s : String) (xs : List (List Token × α)) :
    (Node.ofEntries xs).literals.get? s = Node.ofEntries? (xs.filterMap (tailAfter? s)) := by
  induction xs using List.reverseRecOn with
  | nil => rfl
  | append_singleton xs x ih =>
    rw [ofEntries_concat, get?_insert, ih, List.filterMap_append]
    cases hx : tailAfter? s x with
    | none => simp [hx]
    | some y => simp [hx, ofEntries?_concat]

/-- **The child for a variable is the tree of the registrations that begin with a variable, under
the name that the latest of them gives it.** -/
theorem Node.slot_ofEntries (xs : List (List Token × α)) :
    (Node.ofEntries xs).slot
      = .ofEntries ((xs.filterMap tailBelow?).getLast?.map Prod.fst)
          ((xs.filterMap tailBelow?).map Prod.snd) := by
  induction xs using List.reverseRecOn with
  | nil => rfl
  | append_singleton xs x ih =>
    rw [ofEntries_concat, slot_insert, ih, List.filterMap_append]
    cases hx : tailBelow? x with
    | none => simp [hx]
    | some y =>
      obtain ⟨name, y⟩ := y
      -- The name given last wins, whether the slot was there before or not.
      cases h : (xs.filterMap tailBelow?).getLast? with
      | none =>
        rw [List.getLast?_eq_none_iff] at h
        simp [hx, h, Slot.ofEntries, Slot.update, Node.ofEntries]
      | some last => simp [hx, h, Slot.ofEntries, Slot.update]

/-! ## Following a path -/

theorem Node.follow_nil (captured : List (String × String)) (n : Node α) :
    n.follow captured [] = n.entry.map (⟨·, captured⟩) := by
  obtain ⟨e, literals, slot⟩ := n
  rfl

theorem Node.follow_cons (captured : List (String × String)) (s : String) (rest : List String)
    (n : Node α) :
    n.follow captured (s :: rest)
      = match n.literals.get? s, n.slot with
        | some child, _ => child.follow captured rest
        | none, .some name child => child.follow (Assoc.insert name s captured) rest
        | none, .none => none := by
  obtain ⟨e, literals, slot⟩ := n
  rfl

end HttpKit.Route
