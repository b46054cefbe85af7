import HttpKit.Proofs.Path
import HttpKit.Proofs.Route.Listing

/-!
# The nodes of a route tree

A node stands at a place: the texts that lead to it, and nothing for the name of a variable on the
way. A tree that grows by registrations keeps to more than the shape of its nodes says: its texts
and names can be written in a path, no empty text leads to an entry (`Node.Written`), and under
every node there is an entry (`Node.Tidy`). An insertion makes nodes that have no entry yet, so both
are shown of whole insertions, for tokens that keep to the same rules (`Node.Written.insert`).

Both are so of the node at every place (`Node.Tidy.at?`, `Node.Written.at?`), and there are segments
that lead to it (`Node.exists_lead?`): a text is its own segment, and for a variable any segment
does that is none of the texts beside it.
-/

namespace HttpKit

/-- Whether a text can be the name of a variable. -/
structure Token.IsName (name : String) : Prop where
  notBlank : ∃ c ∈ name.toList, Text.isBlank c = false
  isSegment : Path.IsSegment name

/-- Whether a token can be written in a template, or as a segment of a view. -/
def Token.IsWritten : Token → Prop
  | literal text => Path.IsSegment text
  | capture name => IsName name

namespace Route

variable {α : Type}

/-! ## Nodes at places -/

/-- The texts that have a child, in order. -/
def Branches.texts : Branches α → List String
  | nil => []
  | cons text _ rest => text :: rest.texts

/-- The name of the variable, if there is one. -/
def Slot.name? : Slot α → Option String
  | none => .none
  | some name _ => .some name

/-- The child for the variable, if there is one. -/
def Slot.child? : Slot α → Option (Node α)
  | none => .none
  | some _ child => .some child

/-- The node at a place below a node. -/
def Node.at? : List (Option String) → Node α → Option (Node α)
  | [], n => some n
  | some text :: rest, n => (n.literals.get? text).bind (Node.at? rest)
  | none :: rest, n => n.slot.child?.bind (Node.at? rest)

theorem Branches.get?_eq_none_iff {text : String} : ∀ {bs : Branches α},
    bs.get? text = none ↔ text ∉ bs.texts
  | .nil => by simp [get?, texts]
  | .cons t child rest => by
    rw [get?, texts, List.mem_cons, not_or]
    split
    · next h => simp [h]
    · next h => rw [get?_eq_none_iff, and_iff_right (Ne.symm h)]

theorem Branches.Tidy.nodup_texts : ∀ {bs : Branches α}, bs.Tidy → bs.texts.Nodup
  | .nil, _ => List.nodup_nil
  | .cons _ _ _, ⟨hfresh, _, _, hrest⟩ =>
    List.nodup_cons.mpr ⟨Branches.get?_eq_none_iff.mp hfresh, hrest.nodup_texts⟩

theorem Slot.child?_eq_some_iff {s : Slot α} {child : Node α} :
    s.child? = .some child ↔ ∃ name, s = .some name child := by
  cases s <;> simp [child?]

theorem Slot.exists_eq_of_name? {s : Slot α} {name : String} (h : s.name? = .some name) :
    ∃ child, s = .some name child := by
  cases s with
  | none => cases h
  | some _ child =>
    cases h
    exact ⟨child, rfl⟩

theorem Slot.Tidy.of_child? {s : Slot α} {child : Node α} (h : s.Tidy)
    (hchild : s.child? = .some child) : child.list ≠ [] ∧ child.Tidy := by
  obtain ⟨name, rfl⟩ := child?_eq_some_iff.mp hchild
  exact h

theorem Node.Tidy.slot : ∀ {n : Node α}, n.Tidy → n.slot.Tidy
  | ⟨_, _, _⟩, h => h.2

/-- No node of a tidy tree is there in vain. -/
theorem Node.Tidy.at? {place : List (Option String)} : ∀ {root n : Node α}, root.Tidy →
    root.list ≠ [] → root.at? place = some n → n.list ≠ [] ∧ n.Tidy := by
  induction place with
  | nil =>
    rintro root _ htidy hlist ⟨⟩
    exact ⟨hlist, htidy⟩
  | cons token place ih =>
    intro root n htidy hlist h
    cases token with
    | some text =>
      obtain ⟨child, hget, hat⟩ := Option.bind_eq_some_iff.mp h
      obtain ⟨hbelow, hchild⟩ := htidy.literals.of_get? hget
      exact ih hchild hbelow hat
    | none =>
      obtain ⟨child, hslot, hat⟩ := Option.bind_eq_some_iff.mp h
      obtain ⟨hbelow, hchild⟩ := htidy.slot.of_child? hslot
      exact ih hchild hbelow hat

/-! ## Nodes and what is listed -/

/-- **What a node lists is listed by the tree,** behind tokens that lead to the node. -/
theorem Node.mem_list_of_at? {tokens : List Token} {e : α} {place : List (Option String)} :
    ∀ {root n : Node α}, root.Tidy → root.at? place = some n → (tokens, e) ∈ n.list →
      ∃ before, shape before = place ∧ (before ++ tokens, e) ∈ root.list := by
  induction place with
  | nil =>
    rintro root _ _ ⟨⟩ hmem
    exact ⟨[], rfl, hmem⟩
  | cons token place ih =>
    intro root n htidy h hmem
    cases token with
    | some text =>
      obtain ⟨child, hget, hat⟩ := Option.bind_eq_some_iff.mp h
      obtain ⟨before, rfl, hbelow⟩ := ih (htidy.literals.of_get? hget).2 hat hmem
      exact ⟨.literal text :: before, rfl,
        (Node.mem_list_literal htidy).mpr ⟨child, hget, hbelow⟩⟩
    | none =>
      obtain ⟨child, hchild, hat⟩ := Option.bind_eq_some_iff.mp h
      obtain ⟨before, rfl, hbelow⟩ := ih (htidy.slot.of_child? hchild).2 hat hmem
      obtain ⟨name, hslot⟩ := Slot.child?_eq_some_iff.mp hchild
      exact ⟨.capture name :: before, rfl,
        (Node.mem_list_capture htidy).mpr ⟨child, hslot, hbelow⟩⟩

/-- **What is listed is the entry of a node.** -/
theorem Node.exists_at?_of_mem_list {e : α} {tokens : List Token} : ∀ {root : Node α},
    root.Tidy → (tokens, e) ∈ root.list →
      ∃ n, root.at? (shape tokens) = some n ∧ n.entry = some e := by
  induction tokens with
  | nil => exact fun htidy hmem => ⟨_, rfl, (Node.mem_list_nil htidy).mp hmem⟩
  | cons token tokens ih =>
    intro root htidy hmem
    cases token with
    | literal text =>
      obtain ⟨child, hget, hbelow⟩ := (Node.mem_list_literal htidy).mp hmem
      obtain ⟨n, hat, hentry⟩ := ih (htidy.literals.of_get? hget).2 hbelow
      exact ⟨n, Option.bind_eq_some_iff.mpr ⟨child, hget, hat⟩, hentry⟩
    | capture name =>
      obtain ⟨child, hslot, hbelow⟩ := (Node.mem_list_capture htidy).mp hmem
      have hchild := Slot.child?_eq_some_iff.mpr ⟨name, hslot⟩
      obtain ⟨n, hat, hentry⟩ := ih (htidy.slot.of_child? hchild).2 hbelow
      exact ⟨n, Option.bind_eq_some_iff.mpr ⟨child, hchild, hat⟩, hentry⟩

/-! ## Trees that keep to what can be written -/

mutual

/-- Whether every text and name below the node can be written in a path, and no entry is at the end
of an empty text. `label` is the text that leads to the node, if it is a text. -/
def Node.Written (label : Option String) : Node α → Prop
  | ⟨entry, literals, slot⟩ => (label = some "" → entry = none) ∧ literals.Written ∧ slot.Written

def Branches.Written : Branches α → Prop
  | .nil => True
  | .cons text child rest =>
    Path.IsSegment text ∧ Node.Written (some text) child ∧ rest.Written

def Slot.Written : Slot α → Prop
  | .none => True
  | .some name child => Token.IsName name ∧ Node.Written none child

end

/-- Whether tokens may be inserted at a node that a label leads to: they can be written, and the
last one is not an empty text. -/
structure Insertable (label : Option String) (tokens : List Token) : Prop where
  isWritten : ∀ token ∈ tokens, token.IsWritten
  last : (shape tokens).getLast?.getD label ≠ some ""

theorem Insertable.tail {label : Option String} {token : Token} {rest : List Token}
    (h : Insertable label (token :: rest)) : Insertable token.text? rest where
  isWritten t ht := h.isWritten t (List.mem_cons_of_mem _ ht)
  last := by
    have hlast := h.last
    rwa [shape_cons, List.getLast?_cons, Option.getD_some] at hlast

theorem Node.written_empty (label : Option String) : (Node.empty : Node α).Written label :=
  ⟨fun _ => rfl, trivial, trivial⟩

theorem Branches.Written.update {f : Node α → Node α} {text : String}
    (htext : Path.IsSegment text)
    (hf : ∀ n : Node α, n.Written (some text) → (f n).Written (some text)) :
    ∀ {bs : Branches α}, bs.Written → (bs.update text f).Written
  | .nil, _ => ⟨htext, hf _ (Node.written_empty _), trivial⟩
  | .cons t child rest, ⟨ht, hchild, hrest⟩ => by
    rw [Branches.update]
    split
    · next h =>
      subst h
      exact ⟨ht, hf _ hchild, hrest⟩
    · exact ⟨ht, hchild, hrest.update htext hf⟩

theorem Slot.Written.update {f : Node α → Node α} {name : String} (hname : Token.IsName name)
    (hf : ∀ n : Node α, n.Written .none → (f n).Written .none) : ∀ {s : Slot α}, s.Written →
    (s.update name f).Written
  | .none, _ => ⟨hname, hf _ (Node.written_empty _)⟩
  | .some _ _, ⟨_, hchild⟩ => ⟨hname, hf _ hchild⟩

/-- **An insertion keeps a tree to what can be written.** Nodes that are made on the way have no
entry, and only the last one gets it. -/
theorem Node.Written.insert (entry : α) : ∀ (tokens : List Token) {label : Option String}
    {n : Node α}, n.Written label → Insertable label tokens → (n.insert entry tokens).Written label
  | [], _, ⟨_, _, _⟩, ⟨_, hliterals, hslot⟩, h =>
    ⟨fun hlabel => absurd hlabel h.last, hliterals, hslot⟩
  | .literal _ :: rest, _, ⟨_, _, _⟩, ⟨hentry, hliterals, hslot⟩, h =>
    ⟨hentry, hliterals.update (h.isWritten _ List.mem_cons_self)
      fun _ hn => Node.Written.insert entry rest hn h.tail, hslot⟩
  | .capture _ :: rest, _, ⟨_, _, _⟩, ⟨hentry, hliterals, hslot⟩, h =>
    ⟨hentry, hliterals, hslot.update (h.isWritten _ List.mem_cons_self)
      fun _ hn => Node.Written.insert entry rest hn h.tail⟩

theorem Branches.Written.of_get? {text : String} {child : Node α} : ∀ {bs : Branches α},
    bs.Written → bs.get? text = some child → Path.IsSegment text ∧ child.Written (some text)
  | .nil, _, h => by simp [Branches.get?] at h
  | .cons t n rest, ⟨ht, hn, hrest⟩, h => by
    rw [Branches.get?] at h
    split at h
    · next heq =>
      cases h
      exact heq ▸ ⟨ht, hn⟩
    · exact hrest.of_get? h

theorem Slot.Written.of_child? {s : Slot α} {child : Node α} (h : s.Written)
    (hchild : s.child? = .some child) : child.Written .none := by
  obtain ⟨name, rfl⟩ := child?_eq_some_iff.mp hchild
  exact h.2

theorem Node.Written.parts : ∀ {n : Node α} {label : Option String}, n.Written label →
    (label = some "" → n.entry = none) ∧ n.literals.Written ∧ n.slot.Written
  | ⟨_, _, _⟩, _, h => h

/-- The last step to a place is the label of the node there. -/
theorem Node.Written.at? {place : List (Option String)} : ∀ {root n : Node α}
    {label : Option String}, root.Written label → root.at? place = some n →
    n.Written (place.getLast?.getD label) := by
  induction place with
  | nil =>
    rintro root _ label hwritten ⟨⟩
    exact hwritten
  | cons token place ih =>
    intro root n label hwritten h
    obtain ⟨-, hliterals, hslot⟩ := hwritten.parts
    rw [List.getLast?_cons, Option.getD_some]
    cases token with
    | some text =>
      obtain ⟨child, hget, hat⟩ := Option.bind_eq_some_iff.mp h
      exact ih (hliterals.of_get? hget).2 hat
    | none =>
      obtain ⟨child, hchild, hat⟩ := Option.bind_eq_some_iff.mp h
      exact ih (hslot.of_child? hchild) hat

/-! ## Texts and names -/

theorem Branches.Written.isSegment {text : String} : ∀ {bs : Branches α}, bs.Written →
    text ∈ bs.texts → Path.IsSegment text
  | .nil, _, h => by cases h
  | .cons _ _ _, ⟨ht, _, hrest⟩, h =>
    (List.mem_cons.mp h).elim (fun heq => heq ▸ ht) hrest.isSegment

theorem Slot.Written.isName {s : Slot α} {name : String} (h : s.Written)
    (hname : name ∈ s.name?) : Token.IsName name := by
  obtain ⟨child, rfl⟩ := exists_eq_of_name? hname
  exact h.1

/-! ## Segments that lead to a node -/

/-- The place that segments lead to. -/
def Node.lead? : List String → Node α → Option (List (Option String))
  | [], _ => some []
  | s :: rest, n =>
    match n.literals.get? s, n.slot with
    | some child, _ => (child.lead? rest).map (some s :: ·)
    | none, .some _ child => (child.lead? rest).map (none :: ·)
    | none, .none => none

/-- Segments take to the entry of the node at the place that they lead to. -/
theorem Node.exists_follow_of_lead? {segments : List String} : ∀ {root n : Node α}
    {place : List (Option String)} (captured : List (String × String)),
    root.lead? segments = some place → root.at? place = some n →
    ∃ captured', root.follow captured segments = n.entry.map (⟨·, captured'⟩) := by
  induction segments with
  | nil =>
    rintro root n _ captured ⟨⟩ ⟨⟩
    exact ⟨captured, Node.follow_nil captured root⟩
  | cons s segments ih =>
    intro root n place captured hlead hat
    rw [Node.follow_cons]
    rw [Node.lead?] at hlead
    cases hget : root.literals.get? s with
    | some child =>
      rw [hget] at hlead
      obtain ⟨rest, hrest, rfl⟩ := Option.map_eq_some_iff.mp hlead
      rw [Node.at?, hget] at hat
      exact ih captured hrest hat
    | none =>
      rw [hget] at hlead
      cases hslot : root.slot with
      | none => simp [hslot] at hlead
      | some name child =>
        rw [hslot] at hlead
        obtain ⟨rest, hrest, rfl⟩ := Option.map_eq_some_iff.mp hlead
        rw [Node.at?, hslot] at hat
        exact ih _ hrest hat

/-- **There are segments that lead to every node.** The last of them is empty only behind an empty
text. -/
theorem Node.exists_lead? {place : List (Option String)} : ∀ {root n : Node α}
    {label : Option String}, root.Written label → root.at? place = some n →
    ∃ segments, root.lead? segments = some place ∧ (∀ s ∈ segments, Path.IsSegment s)
      ∧ ∀ first, (first = "" → label = some "") →
        segments.getLast?.getD first = "" → place.getLast?.getD label = some "" := by
  induction place with
  | nil =>
    rintro root _ label _ ⟨⟩
    exact ⟨[], rfl, by simp, fun _ h => h⟩
  | cons token place ih =>
    intro root n label hwritten hat
    obtain ⟨-, hliterals, hslot⟩ := hwritten.parts
    simp only [List.getLast?_cons, Option.getD_some]
    cases token with
    | some text =>
      obtain ⟨child, hget, hat⟩ := Option.bind_eq_some_iff.mp hat
      obtain ⟨htext, hchild⟩ := hliterals.of_get? hget
      obtain ⟨segments, hlead, hchars, hlast⟩ := ih hchild hat
      refine ⟨text :: segments, ?_, List.forall_mem_cons.mpr ⟨htext, hchars⟩, ?_⟩
      · rw [Node.lead?, hget]
        simp [hlead]
      · intro _ _ h
        rw [List.getLast?_cons, Option.getD_some] at h
        exact hlast text (fun heq => heq ▸ rfl) h
    | none =>
      obtain ⟨child, hchild, hat⟩ := Option.bind_eq_some_iff.mp hat
      obtain ⟨segments, hlead, hchars, hlast⟩ := ih (hslot.of_child? hchild) hat
      -- A segment for the variable that no text beside it takes.
      obtain ⟨value, hfresh, hne, hvalue⟩ := Path.exists_fresh root.literals.texts
      have hget := Branches.get?_eq_none_iff.mpr hfresh
      obtain ⟨name, hname⟩ := Slot.child?_eq_some_iff.mp hchild
      refine ⟨value :: segments, ?_, List.forall_mem_cons.mpr ⟨hvalue, hchars⟩, ?_⟩
      · rw [Node.lead?, hget, hname]
        simp [hlead]
      · intro _ _ h
        rw [List.getLast?_cons, Option.getD_some] at h
        exact hlast value (fun heq => absurd heq hne) h

/-- Names that are captured on the way are names of variables of the tree. -/
theorem Node.exists_named_of_follow {name : String} {segments : List String} : ∀ {root : Node α}
    {captured : List (String × String)} {route : Match α},
    root.follow captured segments = some route → name ∈ route.captured.map Prod.fst →
    name ∈ captured.map Prod.fst
      ∨ ∃ place n, root.at? place = some n ∧ n.slot.name? = some name := by
  induction segments with
  | nil =>
    intro root captured route h hname
    rw [Node.follow_nil] at h
    obtain ⟨e, -, rfl⟩ := Option.map_eq_some_iff.mp h
    exact Or.inl hname
  | cons s segments ih =>
    intro root captured route h hname
    rw [Node.follow_cons] at h
    cases hget : root.literals.get? s with
    | some child =>
      rw [hget] at h
      refine (ih h hname).imp_right ?_
      rintro ⟨place, n, hat, hn⟩
      exact ⟨some s :: place, n, Option.bind_eq_some_iff.mpr ⟨child, hget, hat⟩, hn⟩
    | none =>
      rw [hget] at h
      cases hslot : root.slot with
      | none => simp [hslot] at h
      | some present child =>
        rw [hslot] at h
        rcases ih h hname with hmem | ⟨place, n, hat, hn⟩
        · rw [Assoc.map_fst_insert] at hmem
          have hcases : name = present ∨ name ∈ captured.map Prod.fst := by
            split at hmem
            · exact Or.inr hmem
            · simpa [or_comm] using hmem
          refine hcases.symm.imp_right ?_
          rintro rfl
          exact ⟨[], root, rfl, by rw [hslot]; rfl⟩
        · exact Or.inr ⟨none :: place, n, Option.bind_eq_some_iff.mpr
            ⟨child, by rw [hslot]; rfl, hat⟩, hn⟩

end Route

end HttpKit
