import HttpKit.Proofs.Route.Nodes
import HttpKit.Router

/-!
# Route trees in cells

A cell keeps the child for a variable and the name of the variable in two places, which are written
one after the other. So there are cells that no node is kept in: a child without a name, and a name
without a child. Matching goes on below a child without a name and captures the segment under no
name, and a listing breaks off there.

A node is kept in a cell that has both or neither (`Node.cell`). Matching finds the same in the
cells as in the nodes (`Node.follow_cell`). The listing goes down the cells one level per segment
and breaks off where there is no room for another level; it comes to the templates of the tree, if
there is room for every one of them (`Node.walk_cell`). That needs a tree that is tidy: a level
without an entry below it takes up room as well.
-/

namespace HttpKit.Route

variable {α : Type}

/-! ## Cells -/

mutual

/-- A level of a route tree, in places that are written one at a time. -/
inductive Cell (α : Type) where
  | mk (literals : Cells α) (variableChild : Option (Cell α)) (variableName : Option String)
      (entry : Option α)

/-- The cells below literal segments, in order. -/
inductive Cells (α : Type) where
  | nil
  | cons (text : String) (child : Cell α) (rest : Cells α)

end

/-- A cell with nothing written to it. -/
def Cell.empty : Cell α := ⟨.nil, none, none, none⟩

/-- The cells below literal segments. -/
def Cell.literals : Cell α → Cells α
  | ⟨literals, _, _, _⟩ => literals

/-- The cell for a variable, if one is written. -/
def Cell.variableChild : Cell α → Option (Cell α)
  | ⟨_, child, _, _⟩ => child

/-- The name of the variable, if one is written. -/
def Cell.variableName : Cell α → Option String
  | ⟨_, _, name, _⟩ => name

/-- What is registered at the cell itself. -/
def Cell.entry : Cell α → Option α
  | ⟨_, _, _, entry⟩ => entry

/-- The cell for a text. -/
def Cells.get? (text : String) : Cells α → Option (Cell α)
  | nil => none
  | cons t child rest => if t = text then some child else rest.get? text

/-- The texts that have a cell, in order. -/
def Cells.texts : Cells α → List String
  | nil => []
  | cons text _ rest => text :: rest.texts

/-- Makes the cell for a text at the end, unless there is one. -/
def Cells.make (text : String) : Cells α → Cells α
  | nil => cons text .empty nil
  | cons t child rest => if t = text then cons t child rest else cons t child (rest.make text)

/-- Changes the cell for a text, if there is one. -/
def Cells.change (text : String) (f : Cell α → Cell α) : Cells α → Cells α
  | nil => nil
  | cons t child rest =>
    if t = text then cons t (f child) rest else cons t child (rest.change text f)

namespace Cell

/-- Makes the cell for a text, unless there is one. -/
def makeLiteral (text : String) : Cell α → Cell α
  | ⟨literals, child, name, entry⟩ => ⟨literals.make text, child, name, entry⟩

/-- Makes the cell for a variable, unless there is one. It has the name that was there before, if
there was one. -/
def makeVariable : Cell α → Cell α
  | ⟨literals, child, name, entry⟩ => ⟨literals, some (child.getD .empty), name, entry⟩

/-- Writes the name of the variable. -/
def nameVariable (name : String) : Cell α → Cell α
  | ⟨literals, child, _, entry⟩ => ⟨literals, child, some name, entry⟩

/-- Writes what is registered at the cell itself. -/
def setEntry (entry : α) : Cell α → Cell α
  | ⟨literals, child, name, _⟩ => ⟨literals, child, name, some entry⟩

/-- Changes the cell at a place, if there is one. -/
def change (f : Cell α → Cell α) : List Token → Cell α → Cell α
  | [], c => f c
  | .literal text :: rest, ⟨literals, child, name, entry⟩ =>
    ⟨literals.change text (change f rest), child, name, entry⟩
  | .capture _ :: rest, ⟨literals, child, name, entry⟩ =>
    ⟨literals, child.map (change f rest), name, entry⟩

/-- The cell at a place below a cell. -/
def at? : List (Option String) → Cell α → Option (Cell α)
  | [], c => some c
  | some text :: rest, c => (c.literals.get? text).bind (at? rest)
  | none :: rest, c => c.variableChild.bind (at? rest)

/-- The place that segments lead to. -/
def lead? : List String → Cell α → Option (List (Option String))
  | [], _ => some []
  | s :: rest, c =>
    match c.literals.get? s, c.variableChild with
    | some child, _ => (child.lead? rest).map (some s :: ·)
    | none, some child => (child.lead? rest).map (none :: ·)
    | none, none => none

end Cell

/-! ## Matching -/

/-- What a path leads to in cells. A segment may be captured under no name. -/
structure Cell.Match (α : Type) where
  entry : α
  captured : List (Option String × String)

/-- Captures a segment. A name that is captured twice keeps the last segment. -/
def Cell.capture (name : Option String) (segment : String) :
    List (Option String × String) → List (Option String × String)
  | [] => [(name, segment)]
  | pair :: rest =>
    if pair.1 = name then (name, segment) :: rest else pair :: capture name segment rest

/-- Follows the segments of a path. The cell for a variable is gone to whether or not there is a
name for it. -/
def Cell.follow (captured : List (Option String × String)) :
    List String → Cell α → Option (Cell.Match α)
  | [], c => c.entry.map (⟨·, captured⟩)
  | segment :: rest, c =>
    match c.literals.get? segment, c.variableChild with
    | some child, _ => child.follow captured rest
    | none, some child => child.follow (capture c.variableName segment captured) rest
    | none, none => none

/-! ## Listing -/

/-- Why cells cannot be listed. -/
inductive Unlistable where
  | tooDeep (e : TooDeep)
  /-- A variable is to be written that has no name. -/
  | unnamed
  deriving DecidableEq, Repr

mutual

/-- The paths of what is registered at a cell and below it, from the segments that lead to it. -/
def Cell.walk (depth : Nat) (segments : List String) :
    Cell α → Except Unlistable (List String)
  | ⟨literals, child, name, entry⟩ => do
    if depth < segments.length then throw (.tooDeep ⟨⟩)
    let own := entry.toList.map fun _ => Path.ofSegments segments
    let below ← literals.walk depth segments
    match child, name with
    | none, _ => return own ++ below
    | some _, none => throw .unnamed
    | some child, some name =>
      return own ++ (below ++ (← child.walk depth (segments ++ [(Token.capture name).segment])))

def Cells.walk (depth : Nat) (segments : List String) :
    Cells α → Except Unlistable (List String)
  | .nil => return []
  | .cons text child rest =>
    return (← child.walk depth (segments ++ [text])) ++ (← rest.walk depth segments)

end

/-! ## Nodes in cells -/

mutual

/-- The cell that a node is kept in. -/
def Node.cell : Node α → Cell α
  | ⟨entry, literals, .none⟩ => ⟨literals.cells, none, none, entry⟩
  | ⟨entry, literals, .some name child⟩ => ⟨literals.cells, some child.cell, some name, entry⟩

def Branches.cells : Branches α → Cells α
  | .nil => .nil
  | .cons text child rest => .cons text child.cell rest.cells

end

theorem Node.literals_cell : ∀ (n : Node α), n.cell.literals = n.literals.cells
  | ⟨_, _, .none⟩ | ⟨_, _, .some _ _⟩ => by rw [cell]; rfl

theorem Node.entry_cell : ∀ (n : Node α), n.cell.entry = n.entry
  | ⟨_, _, .none⟩ | ⟨_, _, .some _ _⟩ => by rw [cell]; rfl

/-- **The child for a variable and its name are written both or neither.** -/
theorem Node.slot_cell : ∀ (n : Node α),
    n.cell.variableChild = n.slot.child?.map cell ∧ n.cell.variableName = n.slot.name?
  | ⟨_, _, .none⟩ | ⟨_, _, .some _ _⟩ => by rw [cell]; exact ⟨rfl, rfl⟩

theorem Branches.get?_cells (text : String) : ∀ (bs : Branches α),
    bs.cells.get? text = (bs.get? text).map Node.cell
  | .nil => by rw [cells]; rfl
  | .cons t child rest => by
    rw [cells, Cells.get?, get?]
    split
    · rfl
    · exact get?_cells text rest

theorem Branches.texts_cells : ∀ (bs : Branches α), bs.cells.texts = bs.texts
  | .nil => by rw [cells]; rfl
  | .cons _ _ rest => by rw [cells, Cells.texts, texts, texts_cells rest]

theorem Node.at?_cell (place : List (Option String)) : ∀ (n : Node α),
    n.cell.at? place = (n.at? place).map cell := by
  induction place with
  | nil => exact fun _ => rfl
  | cons token place ih =>
    intro n
    cases token with
    | some text =>
      rw [Cell.at?, at?, n.literals_cell, Branches.get?_cells, Option.bind_map, Option.map_bind]
      exact Option.bind_congr fun child _ => ih child
    | none =>
      rw [Cell.at?, at?, n.slot_cell.1, Option.bind_map, Option.map_bind]
      exact Option.bind_congr fun child _ => ih child

theorem Node.lead?_cell (segments : List String) : ∀ (n : Node α),
    n.cell.lead? segments = n.lead? segments := by
  induction segments with
  | nil => exact fun _ => rfl
  | cons s segments ih =>
    intro n
    rw [Cell.lead?, lead?, n.literals_cell, Branches.get?_cells, n.slot_cell.1]
    cases n.literals.get? s with
    | some child => simp only [Option.map_some, ih child]
    | none =>
      cases n.slot with
      | none => rfl
      | some name child => simp only [Slot.child?, Option.map_some, Option.map_none, ih child]

/-! ## What is so of every cell -/

/-- What is so of a cell at a place of a tree. -/
structure Cell.SoundAt (place : List (Option String)) (c : Cell α) : Prop where
  /-- There is a cell for a variable if and only if the variable has a name. -/
  named : c.variableChild.isSome ↔ c.variableName.isSome
  /-- The name is not blank and fits between slashes. -/
  name : ∀ name ∈ c.variableName, Token.IsName name
  /-- No text has two cells. -/
  nodup : c.literals.texts.Nodup
  /-- Texts fit between slashes. -/
  texts : ∀ text ∈ c.literals.texts, Path.IsSegment text
  /-- There is an entry at the cell or below it. -/
  live : ∃ way below, c.at? way = some below ∧ below.entry.isSome
  /-- No empty text leads to an entry. -/
  entry : place.getLast? = some (some "") → c.entry = none

/-- **The cells of a tree are sound** if it is tidy and keeps to what can be written. -/
theorem Node.soundAt_cell {root n : Node α} {place : List (Option String)} (htidy : root.Tidy)
    (hlist : root.list ≠ []) (hwritten : root.Written none) (h : root.at? place = some n) :
    n.cell.SoundAt place := by
  obtain ⟨hbelow, hn⟩ := htidy.at? hlist h
  obtain ⟨hentry, hliterals, hslot⟩ := (hwritten.at? h).parts
  obtain ⟨hchild, hname⟩ := n.slot_cell
  have htexts : n.cell.literals.texts = n.literals.texts := by
    rw [n.literals_cell, Branches.texts_cells]
  refine ⟨?_, ?_, ?_, ?_, ?_, ?_⟩
  · rw [hchild, hname]
    cases n.slot <;> simp [Slot.child?, Slot.name?]
  · rw [hname]
    exact fun name => hslot.isName
  · exact htexts ▸ hn.literals.nodup_texts
  · exact htexts ▸ fun text => hliterals.isSegment
  · obtain ⟨⟨tokens, e⟩, hmem⟩ := List.exists_mem_of_ne_nil _ hbelow
    obtain ⟨below, hat, he⟩ := Node.exists_at?_of_mem_list hn hmem
    refine ⟨shape tokens, below.cell, ?_, ?_⟩
    · rw [n.at?_cell, hat]
      rfl
    · rw [below.entry_cell, he]
      rfl
  · intro hlast
    rw [n.entry_cell]
    exact hentry (by rw [hlast, Option.getD_some])

/-! ## Matching in cells -/

/-- What a path leads to, with every name as one that was written. -/
def Match.named (route : Match α) : Cell.Match α :=
  ⟨route.entry, route.captured.map fun pair => (some pair.1, pair.2)⟩

theorem Cell.capture_some (name segment : String) : ∀ (captured : List (String × String)),
    capture (some name) segment (captured.map fun pair => (some pair.1, pair.2))
      = (Assoc.insert name segment captured).map fun pair => (some pair.1, pair.2)
  | [] => rfl
  | pair :: rest => by
    by_cases h : pair.1 = name
    · simp [capture, Assoc.insert, h]
    · simp [capture, Assoc.insert, h, capture_some name segment rest]

/-- **Matching finds in the cells what it finds in the nodes,** and captures under names only. -/
theorem Node.follow_cell (segments : List String) : ∀ (n : Node α)
    (captured : List (String × String)),
    n.cell.follow (captured.map fun pair => (some pair.1, pair.2)) segments
      = (n.follow captured segments).map Match.named := by
  induction segments with
  | nil =>
    intro n captured
    rw [Cell.follow, Node.follow_nil, n.entry_cell, Option.map_map]
    rfl
  | cons s segments ih =>
    intro n captured
    obtain ⟨hchild, hname⟩ := n.slot_cell
    rw [Cell.follow, Node.follow_cons, n.literals_cell, Branches.get?_cells, hchild, hname]
    cases n.literals.get? s with
    | some child => exact ih child captured
    | none =>
      cases n.slot with
      | none => rfl
      | some name child =>
        simp only [Slot.child?, Slot.name?, Option.map_some, Option.map_none, Cell.capture_some]
        exact ih child _

/-! ## The listing of cells -/

/-- What a listing that went down to the segments comes to: the paths of what is below them, if
there is room for each. -/
def listed (depth : Nat) (segments : List String) (xs : List (List Token × α)) :
    Except Unlistable (List String) :=
  if xs.all fun x => segments.length + x.1.length ≤ depth then
    .ok (xs.map fun x => Path.ofSegments (segments ++ x.1.map Token.segment))
  else .error (.tooDeep ⟨⟩)

theorem listed_append (depth : Nat) (segments : List String) (xs ys : List (List Token × α)) :
    listed depth segments (xs ++ ys)
      = do return (← listed depth segments xs) ++ (← listed depth segments ys) := by
  simp only [listed, List.all_append, List.map_append]
  cases xs.all fun x => segments.length + x.1.length ≤ depth with
  | false => rfl
  | true => cases ys.all fun x => segments.length + x.1.length ≤ depth <;> rfl

theorem listed_cons_token (depth : Nat) (segments : List String) (token : Token)
    (xs : List (List Token × α)) :
    listed depth segments (xs.map fun (tokens, entry) => (token :: tokens, entry))
      = listed depth (segments ++ [token.segment]) xs := by
  simp only [listed, List.all_map, List.map_map, Function.comp_def, List.length_append,
    List.length_cons, List.length_nil, List.map_cons, List.append_assoc, List.singleton_append,
    Nat.add_assoc, Nat.add_comm 1]

/-- What is at the segments themselves is listed where there is room for the segments. -/
theorem listed_entry {depth : Nat} {segments : List String} (h : segments.length ≤ depth)
    (entry : Option α) : listed depth segments (entry.toList.map fun e => ([], e))
      = .ok (entry.toList.map fun _ => Path.ofSegments segments) := by
  cases entry <;> simp [listed, h]

theorem listed_of_lt {depth : Nat} {segments : List String} (h : depth < segments.length)
    {xs : List (List Token × α)} (hxs : xs ≠ []) :
    listed depth segments xs = .error (.tooDeep ⟨⟩) := by
  obtain ⟨x, hx⟩ := List.exists_mem_of_ne_nil xs hxs
  refine if_neg fun hall => ?_
  have hroom := of_decide_eq_true (List.all_eq_true.mp hall x hx)
  omega

mutual

/-- **The listing of a tidy tree's cells comes to its templates,** if there is room for each. -/
theorem Node.walk_cell (depth : Nat) : ∀ {n : Node α} (segments : List String), n.Tidy →
    n.list ≠ [] → n.cell.walk depth segments = listed depth segments n.list
  | ⟨entry, literals, slot⟩, segments, ⟨hliterals, hslot⟩, hlist => by
    by_cases hdepth : depth < segments.length
    -- There is an entry below, so that the listing of the tree has no room either.
    · rw [listed_of_lt hdepth hlist]
      cases slot <;> rw [Node.cell, Cell.walk, if_pos hdepth] <;> rfl
    · have hbelow := Branches.walk_cells depth segments hliterals
      rw [Node.list, listed_append, listed_append, listed_entry (Nat.not_lt.mp hdepth), ← hbelow]
      cases slot with
      | none =>
        rw [Node.cell, Cell.walk, if_neg hdepth]
        cases literals.cells.walk depth segments with
        | error e => rfl
        | ok below => simp [Slot.list, listed, bind, Except.bind, pure, Except.pure]
      | some name child =>
        have hchild := Node.walk_cell depth (segments ++ [(Token.capture name).segment]) hslot.2
          hslot.1
        rw [Node.cell, Cell.walk, if_neg hdepth, Slot.list, listed_cons_token, ← hchild]
        cases literals.cells.walk depth segments with
        | error e => rfl
        | ok below =>
          cases h : child.cell.walk depth (segments ++ [(Token.capture name).segment]) <;>
            simp [h, bind, Except.bind, pure, Except.pure]

theorem Branches.walk_cells (depth : Nat) : ∀ {bs : Branches α} (segments : List String),
    bs.Tidy → bs.cells.walk depth segments = listed depth segments bs.list
  | .nil, segments, _ => by
    rw [Branches.cells, Cells.walk, Branches.list]
    rfl
  | .cons text child rest, segments, ⟨_, hlist, hchild, hrest⟩ => by
    rw [Branches.cells, Cells.walk, Branches.list, listed_append, listed_cons_token,
      Node.walk_cell depth _ hchild hlist, Branches.walk_cells depth segments hrest]
    rfl

end

end HttpKit.Route
