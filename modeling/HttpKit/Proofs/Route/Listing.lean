import HttpKit.Proofs.Route.Tree
import Mathlib.Data.List.Nodup

/-!
# The listing of a route tree

A tree that is built by insertions holds no child in vain: something is registered at or below
every child, and no text has two children (`Node.Tidy`). The listing of such a tree tells all of it:

* `mem_list_literal`, `mem_list_capture` — what is listed beyond a first token is what the child for
  this token lists
* `nodup_shapes_list` — nothing is listed twice, whatever the names of variables
* `insertAll_list` — inserted in their order, the listed entries build the same tree again
-/

namespace HttpKit

/-- The text that a token is, and nothing for a variable, whatever its name. -/
def Token.text? : Token → Option String
  | .literal text => some text
  | .capture _ => none

namespace Route

variable {α : Type}

/-- Tokens without the names of their variables. -/
def shape (tokens : List Token) : List (Option String) := tokens.map Token.text?

/-! ## Trees without children in vain -/

mutual

/-- Whether every child at or below the node has an entry at or below it, and is the only one for
its text. -/
def Node.Tidy : Node α → Prop
  | ⟨_, literals, slot⟩ => literals.Tidy ∧ slot.Tidy

def Branches.Tidy : Branches α → Prop
  | .nil => True
  | .cons text child rest => rest.get? text = none ∧ child.list ≠ [] ∧ child.Tidy ∧ rest.Tidy

def Slot.Tidy : Slot α → Prop
  | .none => True
  | .some _ child => child.list ≠ [] ∧ child.Tidy

end

theorem Node.tidy_empty : (Node.empty : Node α).Tidy := ⟨trivial, trivial⟩

theorem Branches.list_update_ne_nil {f : Node α → Node α} (hf : ∀ n, (f n).list ≠ [])
    (text : String) : ∀ (bs : Branches α), (bs.update text f).list ≠ []
  | .nil => by simp [update, Branches.list, hf]
  | .cons t child rest => by
    rw [update]
    split
    · simp [Branches.list, hf]
    · simp [Branches.list, list_update_ne_nil hf text rest]

theorem Slot.list_update_ne_nil {f : Node α → Node α} (hf : ∀ n, (f n).list ≠ [])
    (name : String) (s : Slot α) : (s.update name f).list ≠ [] := by
  cases s <;> simp [update, Slot.list, hf]

/-- After an insertion something is listed. -/
theorem Node.list_insert_ne_nil (entry : α) : ∀ (tokens : List Token) (n : Node α),
    (n.insert entry tokens).list ≠ []
  | [], ⟨e, literals, slot⟩ => by simp [Node.insert, Node.list]
  | .literal text :: rest, ⟨e, literals, slot⟩ => by
    have h := Branches.list_update_ne_nil (Node.list_insert_ne_nil entry rest) text literals
    simp [Node.insert, Node.list, h]
  | .capture name :: rest, ⟨e, literals, slot⟩ => by
    have h := Slot.list_update_ne_nil (Node.list_insert_ne_nil entry rest) name slot
    simp [Node.insert, Node.list, h]

/-- A single insertion lists a single entry. -/
theorem Node.list_insert_empty (entry : α) : ∀ (tokens : List Token),
    (Node.empty.insert entry tokens).list = [(tokens, entry)]
  | [] => rfl
  | .literal text :: rest => by
    have h := Node.list_insert_empty entry rest
    simp [Node.empty, Node.insert, Node.list, Branches.update, Branches.list, Slot.list] at h ⊢
    exact h
  | .capture name :: rest => by
    have h := Node.list_insert_empty entry rest
    simp [Node.empty, Node.insert, Node.list, Slot.update, Branches.list, Slot.list] at h ⊢
    exact h

theorem Branches.Tidy.update {f : Node α → Node α} (hf : ∀ n, (f n).list ≠ [])
    (htidy : ∀ n : Node α, n.Tidy → (f n).Tidy) (text : String) : ∀ {bs : Branches α},
    bs.Tidy → (bs.update text f).Tidy
  | .nil, _ => ⟨rfl, hf _, htidy _ Node.tidy_empty, trivial⟩
  | .cons t child rest, ⟨hfresh, hlist, hchild, hrest⟩ => by
    rw [Branches.update]
    split
    · exact ⟨hfresh, hf _, htidy _ hchild, hrest⟩
    · next h =>
      refine ⟨?_, hlist, hchild, hrest.update hf htidy text⟩
      rw [get?_update, if_neg (Ne.symm h), hfresh]

theorem Slot.Tidy.update {f : Node α → Node α} (hf : ∀ n, (f n).list ≠ [])
    (htidy : ∀ n : Node α, n.Tidy → (f n).Tidy) (name : String) : ∀ {s : Slot α},
    s.Tidy → (s.update name f).Tidy
  | .none, _ => ⟨hf _, htidy _ Node.tidy_empty⟩
  | .some _ _, ⟨_, hchild⟩ => ⟨hf _, htidy _ hchild⟩

/-- **Insertions keep a tree tidy.** -/
theorem Node.Tidy.insert (entry : α) : ∀ (tokens : List Token) {n : Node α}, n.Tidy →
    (n.insert entry tokens).Tidy
  | [], ⟨_, _, _⟩, h => h
  | .literal text :: rest, ⟨_, _, _⟩, ⟨hliterals, hslot⟩ =>
    ⟨hliterals.update (Node.list_insert_ne_nil entry rest)
      (fun _ h => Node.Tidy.insert entry rest h) text, hslot⟩
  | .capture name :: rest, ⟨_, _, _⟩, ⟨hliterals, hslot⟩ =>
    ⟨hliterals, hslot.update (Node.list_insert_ne_nil entry rest)
      (fun _ h => Node.Tidy.insert entry rest h) name⟩

theorem Node.tidy_ofEntries (xs : List (List Token × α)) : (Node.ofEntries xs).Tidy := by
  induction xs using List.reverseRecOn with
  | nil => exact tidy_empty
  | append_singleton xs x ih =>
    rw [ofEntries_concat]
    exact ih.insert x.2 x.1

theorem Node.Tidy.literals : ∀ {n : Node α}, n.Tidy → n.literals.Tidy
  | ⟨_, _, _⟩, h => h.1

theorem Branches.Tidy.of_get? {text : String} {child : Node α} : ∀ {bs : Branches α}, bs.Tidy →
    bs.get? text = some child → child.list ≠ [] ∧ child.Tidy
  | .nil, _, h => by simp [Branches.get?] at h
  | .cons t n rest, ⟨_, hlist, hn, hrest⟩, h => by
    rw [Branches.get?] at h
    split at h
    · cases h
      exact ⟨hlist, hn⟩
    · exact hrest.of_get? h

/-! ## What is listed -/

theorem Branches.mem_list {tokens : List Token} {e : α} : ∀ {bs : Branches α}, bs.Tidy →
    ((tokens, e) ∈ bs.list ↔ ∃ text child rest, bs.get? text = some child
      ∧ tokens = .literal text :: rest ∧ (rest, e) ∈ child.list)
  | .nil, _ => by simp [Branches.list, Branches.get?]
  | .cons t n more, ⟨hfresh, _, _, hmore⟩ => by
    rw [Branches.list, List.mem_append, mem_list hmore]
    constructor
    · rintro (h | ⟨text, child, rest, hget, hx⟩)
      · obtain ⟨⟨rest, e'⟩, hy, heq⟩ := List.mem_map.mp h
        cases heq
        exact ⟨t, n, rest, by simp [Branches.get?], rfl, hy⟩
      · have ht : t ≠ text := by
          rintro rfl
          simp [hfresh] at hget
        exact ⟨text, child, rest, by rw [Branches.get?, if_neg ht, hget], hx⟩
    · rintro ⟨text, child, rest, hget, rfl, hx⟩
      rw [Branches.get?] at hget
      split at hget
      · next ht =>
        cases hget
        exact Or.inl (List.mem_map.mpr ⟨(rest, e), hx, by rw [ht]⟩)
      · exact Or.inr ⟨text, child, rest, hget, rfl, hx⟩

theorem Slot.mem_list {tokens : List Token} {e : α} {s : Slot α} :
    (tokens, e) ∈ s.list ↔ ∃ name child rest, s = .some name child
      ∧ tokens = .capture name :: rest ∧ (rest, e) ∈ child.list := by
  cases s with
  | none => simp [Slot.list]
  | some name child =>
    rw [Slot.list, List.mem_map]
    constructor
    · rintro ⟨⟨rest, e'⟩, hy, heq⟩
      cases heq
      exact ⟨name, child, rest, rfl, rfl, hy⟩
    · rintro ⟨_, _, rest, heq, rfl, hx⟩
      cases heq
      exact ⟨(rest, e), hx, rfl⟩

theorem Node.mem_list {tokens : List Token} {e : α} {n : Node α} :
    (tokens, e) ∈ n.list ↔ (tokens = [] ∧ n.entry = some e)
      ∨ (tokens, e) ∈ n.literals.list ∨ (tokens, e) ∈ n.slot.list := by
  obtain ⟨entry, literals, slot⟩ := n
  rw [Node.list, List.mem_append, List.mem_append, Node.entry, Node.literals, Node.slot]
  refine or_congr_left ?_
  cases entry <;> simp [and_comm, eq_comm]

/-- The node's own entry is listed without tokens. -/
theorem Node.mem_list_nil {n : Node α} (h : n.Tidy) {e : α} :
    ([], e) ∈ n.list ↔ n.entry = some e := by
  rw [Node.mem_list, Branches.mem_list h.literals, Slot.mem_list]
  simp

/-- **Beyond a text is listed what the child for the text lists.** -/
theorem Node.mem_list_literal {n : Node α} (h : n.Tidy) {text : String} {tokens : List Token}
    {e : α} : (.literal text :: tokens, e) ∈ n.list
      ↔ ∃ child, n.literals.get? text = some child ∧ (tokens, e) ∈ child.list := by
  rw [Node.mem_list, Branches.mem_list h.literals, Slot.mem_list]
  simp

/-- **Beyond a variable is listed what its child lists,** under the name that it has. -/
theorem Node.mem_list_capture {n : Node α} (h : n.Tidy) {name : String} {tokens : List Token}
    {e : α} : (.capture name :: tokens, e) ∈ n.list
      ↔ ∃ child, n.slot = .some name child ∧ (tokens, e) ∈ child.list := by
  rw [Node.mem_list, Branches.mem_list h.literals, Slot.mem_list]
  simp

/-! ## Nothing is listed twice -/

theorem shape_cons (token : Token) (tokens : List Token) :
    shape (token :: tokens) = token.text? :: shape tokens := rfl

/-- The shapes that are listed, in order. -/
def shapes (xs : List (List Token × α)) : List (List (Option String)) := xs.map (shape ·.1)

@[simp]
theorem shapes_append (xs ys : List (List Token × α)) :
    shapes (xs ++ ys) = shapes xs ++ shapes ys := List.map_append

theorem shapes_cons_token (token : Token) (xs : List (List Token × α)) :
    shapes (xs.map fun x => (token :: x.1, x.2)) = (shapes xs).map (token.text? :: ·) := by
  simp [shapes, shape_cons, Function.comp_def]

theorem nodup_shapes_cons {token : Token} {xs : List (List Token × α)} (h : (shapes xs).Nodup) :
    (shapes (xs.map fun x => (token :: x.1, x.2))).Nodup := by
  rw [shapes_cons_token]
  exact h.map List.cons_injective

theorem Branches.mem_shapes_list {bs : Branches α} (h : bs.Tidy) {sh : List (Option String)}
    (hmem : sh ∈ shapes bs.list) :
    ∃ text rest, sh = some text :: rest ∧ (bs.get? text).isSome := by
  obtain ⟨⟨tokens, e⟩, hx, rfl⟩ := List.mem_map.mp hmem
  obtain ⟨text, child, rest, hget, rfl, _⟩ := (Branches.mem_list h).mp hx
  exact ⟨text, shape rest, rfl, by rw [hget]; rfl⟩

theorem Slot.mem_shapes_list {s : Slot α} {sh : List (Option String)}
    (hmem : sh ∈ shapes s.list) : ∃ rest, sh = Option.none :: rest := by
  obtain ⟨⟨tokens, e⟩, hx, rfl⟩ := List.mem_map.mp hmem
  obtain ⟨name, child, rest, _, rfl, _⟩ := Slot.mem_list.mp hx
  exact ⟨shape rest, rfl⟩

mutual

/-- **No two entries of a tree are listed under the same tokens, names aside.** -/
theorem Node.Tidy.nodup_shapes_list : ∀ {n : Node α}, n.Tidy → (shapes n.list).Nodup
  | ⟨entry, literals, slot⟩, ⟨hliterals, hslot⟩ => by
    have hown : shapes (entry.toList.map (([] : List Token), ·))
        = entry.toList.map fun _ => [] := by
      simp [shapes, shape, Function.comp_def]
    rw [Node.list, shapes_append, shapes_append, hown, List.nodup_append, List.nodup_append]
    refine ⟨?_, ⟨hliterals.nodup_shapes_list, hslot.nodup_shapes_list, ?_⟩, ?_⟩
    · cases entry <;> simp
    · intro sh hl _ hs rfl
      obtain ⟨text, rest, rfl, _⟩ := Branches.mem_shapes_list hliterals hl
      obtain ⟨rest', h⟩ := Slot.mem_shapes_list hs
      cases h
    · intro sh ho _ hbelow rfl
      obtain ⟨_, _, rfl⟩ := List.mem_map.mp ho
      rcases List.mem_append.mp hbelow with hl | hs
      · obtain ⟨text, rest, h, _⟩ := Branches.mem_shapes_list hliterals hl
        cases h
      · obtain ⟨rest, h⟩ := Slot.mem_shapes_list hs
        cases h

theorem Branches.Tidy.nodup_shapes_list : ∀ {bs : Branches α}, bs.Tidy → (shapes bs.list).Nodup
  | .nil, _ => List.nodup_nil
  | .cons t n rest, ⟨hfresh, _, hn, hrest⟩ => by
    rw [Branches.list, shapes_append, List.nodup_append]
    refine ⟨nodup_shapes_cons hn.nodup_shapes_list, hrest.nodup_shapes_list, ?_⟩
    intro sh hfirst _ hmore rfl
    rw [shapes_cons_token] at hfirst
    obtain ⟨_, _, rfl⟩ := List.mem_map.mp hfirst
    obtain ⟨text, _, h, hget⟩ := Branches.mem_shapes_list hrest hmore
    cases h
    simp [hfresh] at hget

theorem Slot.Tidy.nodup_shapes_list : ∀ {s : Slot α}, s.Tidy → (shapes s.list).Nodup
  | .none, _ => List.nodup_nil
  | .some _ _, ⟨_, hn⟩ => nodup_shapes_cons hn.nodup_shapes_list

end

/-! ## The listing builds the tree -/

/-- Inserts entries one after the other. -/
def Node.insertAll (xs : List (List Token × α)) (n : Node α) : Node α :=
  xs.foldl (fun node x => node.insert x.2 x.1) n

theorem Node.insertAll_append (xs ys : List (List Token × α)) (n : Node α) :
    n.insertAll (xs ++ ys) = (n.insertAll xs).insertAll ys := List.foldl_append

/-- The branches of one node before those of another. -/
def Branches.append : Branches α → Branches α → Branches α
  | .nil, more => more
  | .cons t child rest, more => .cons t child (rest.append more)

theorem Branches.append_nil : ∀ (bs : Branches α), bs.append .nil = bs
  | .nil => rfl
  | .cons t child rest => by rw [append, append_nil rest]

theorem Branches.append_assoc (more last : Branches α) : ∀ (bs : Branches α),
    (bs.append more).append last = bs.append (more.append last)
  | .nil => rfl
  | .cons t child rest => by rw [append, append, append, append_assoc more last rest]

theorem Branches.get?_append (text : String) (more : Branches α) : ∀ (bs : Branches α),
    (bs.append more).get? text = (bs.get? text).or (more.get? text)
  | .nil => by simp [append, get?]
  | .cons t child rest => by
    rw [append, get?, get?, get?_append text more rest]
    split <;> simp

/-- A change below a text that has no child among the first branches is one of the last. -/
theorem Branches.update_append {text : String} {f : Node α → Node α} {more : Branches α} :
    ∀ {bs : Branches α}, bs.get? text = none →
    (bs.append more).update text f = bs.append (more.update text f)
  | .nil, _ => rfl
  | .cons t child rest, h => by
    rw [get?] at h
    split at h
    · cases h
    · next ht => rw [append, append, update, if_neg ht, update_append h]

/-- Entries beyond a text go below the child for it. -/
theorem Node.insertAll_literal {entry : Option α} {bs : Branches α} {slot : Slot α}
    {text : String} (h : bs.get? text = none) (xs : List (List Token × α)) :
    ∀ (child : Node α),
    Node.insertAll (xs.map fun x => (.literal text :: x.1, x.2))
        ⟨entry, bs.append (.cons text child .nil), slot⟩
      = ⟨entry, bs.append (.cons text (child.insertAll xs) .nil), slot⟩ := by
  induction xs with
  | nil => intro child; rfl
  | cons x xs ih =>
    intro child
    rw [List.map_cons, insertAll, List.foldl_cons, Node.insert, Branches.update_append h,
      Branches.update, if_pos rfl]
    exact ih _

/-- The first entry beyond a text makes the child for it. -/
theorem Node.insertAll_literal_of_fresh {entry : Option α} {bs : Branches α} {slot : Slot α}
    {text : String} (h : bs.get? text = none) {xs : List (List Token × α)} (hxs : xs ≠ []) :
    Node.insertAll (xs.map fun x => (.literal text :: x.1, x.2)) ⟨entry, bs, slot⟩
      = ⟨entry, bs.append (.cons text (Node.empty.insertAll xs) .nil), slot⟩ := by
  obtain ⟨x, xs, rfl⟩ := List.exists_cons_of_ne_nil hxs
  have hfirst : bs.update text (Node.insert x.2 x.1)
      = bs.append (.cons text (Node.empty.insert x.2 x.1) .nil) := by
    have hlast : (bs.append .nil).update text (Node.insert x.2 x.1)
        = bs.append (Branches.nil.update text (Node.insert x.2 x.1)) := Branches.update_append h
    rwa [Branches.append_nil] at hlast
  rw [List.map_cons, insertAll, List.foldl_cons, Node.insert, hfirst]
  exact insertAll_literal h xs _

/-- Entries beyond a variable go below its child. -/
theorem Node.insertAll_capture {entry : Option α} {bs : Branches α} {name : String}
    (xs : List (List Token × α)) : ∀ (child : Node α),
    Node.insertAll (xs.map fun x => (.capture name :: x.1, x.2)) ⟨entry, bs, .some name child⟩
      = ⟨entry, bs, .some name (child.insertAll xs)⟩ := by
  induction xs with
  | nil => intro child; rfl
  | cons x xs ih =>
    intro child
    rw [List.map_cons, insertAll, List.foldl_cons, Node.insert, Slot.update]
    exact ih _

/-- The first entry beyond a variable makes its child. -/
theorem Node.insertAll_capture_of_none {entry : Option α} {bs : Branches α} {name : String}
    {xs : List (List Token × α)} (hxs : xs ≠ []) :
    Node.insertAll (xs.map fun x => (.capture name :: x.1, x.2)) ⟨entry, bs, .none⟩
      = ⟨entry, bs, .some name (Node.empty.insertAll xs)⟩ := by
  obtain ⟨x, xs, rfl⟩ := List.exists_cons_of_ne_nil hxs
  rw [List.map_cons, insertAll, List.foldl_cons, Node.insert, Slot.update]
  exact insertAll_capture xs _

mutual

/-- **A tree is built again by its entries, inserted in the order in which they are listed.** -/
theorem Node.Tidy.insertAll_list : ∀ {n : Node α}, n.Tidy → Node.empty.insertAll n.list = n
  | ⟨entry, literals, slot⟩, ⟨hliterals, hslot⟩ => by
    have hown : Node.empty.insertAll (entry.toList.map (([] : List Token), ·))
        = ⟨entry, .nil, .none⟩ := by
      cases entry <;> rfl
    rw [Node.list, Node.insertAll_append, hown, Node.insertAll_append,
      hliterals.insertAll_list fun _ _ => rfl, hslot.insertAll_list]
    rfl

/-- Branches come after those that are there, if they have other texts. -/
theorem Branches.Tidy.insertAll_list {entry : Option α} {before : Branches α} {slot : Slot α} :
    ∀ {bs : Branches α}, bs.Tidy → (∀ text, (bs.get? text).isSome → before.get? text = none) →
    Node.insertAll bs.list ⟨entry, before, slot⟩ = ⟨entry, before.append bs, slot⟩
  | .nil, _, _ => by
    rw [Branches.append_nil]
    rfl
  | .cons t n rest, ⟨hfresh, hlist, hn, hrest⟩, hbefore => by
    have ht : before.get? t = none := hbefore t (by simp [Branches.get?])
    -- The further texts are neither among those before nor this one.
    have hmore : ∀ text, (rest.get? text).isSome →
        (before.append (.cons t n .nil)).get? text = none := by
      intro text h
      have hne : t ≠ text := by
        rintro rfl
        simp [hfresh] at h
      have hnone : before.get? text = none := hbefore text (by rwa [Branches.get?, if_neg hne])
      simp [Branches.get?_append, Branches.get?, hnone, hne]
    rw [Branches.list, Node.insertAll_append, Node.insertAll_literal_of_fresh ht hlist,
      hn.insertAll_list, hrest.insertAll_list hmore, Branches.append_assoc]
    rfl

theorem Slot.Tidy.insertAll_list {entry : Option α} {bs : Branches α} : ∀ {s : Slot α}, s.Tidy →
    Node.insertAll s.list ⟨entry, bs, .none⟩ = ⟨entry, bs, s⟩
  | .none, _ => rfl
  | .some name n, ⟨hlist, hn⟩ => by
    rw [Slot.list, Node.insertAll_capture_of_none hlist, hn.insertAll_list]

end

end Route

end HttpKit
