import HttpKit.Proofs.Route.Cells
import HttpKit.Proofs.Router.Attempts
import HttpKit.Proofs.Router.Places

/-!
# Route tables in cells

A table that is kept in cells is changed by one write at a time: the tree of a method is planted, a
cell is made for a text or for a variable, the variable gets its name, and the handler is written at
the end. Between two writes there are cells that no node is kept in. An error keeps what was written
before it.

`Mounts.run_shelf` says that after any calls through any views the cells are those of the table that
the same calls make of nodes. A registration in cells is compared write by write with the one in
nodes (`Storing.Follows`): the two writes for a variable come to the one step that makes the child
and gives it its name (`Route.Node.nameVariable_makeVariable_cell`), and the rest corresponds one by
one. A request then leads to the same in both (`RouteTable.resolve_store`), and what is listed is
the same (`RouteTable.routes_store`).
-/

namespace HttpKit

/-! ## Writes to one cell -/

namespace Route

variable {α : Type}

theorem Cells.change_change (text : String) (f g : Cell α → Cell α) : ∀ (cs : Cells α),
    (cs.change text f).change text g = cs.change text (g ∘ f)
  | .nil => rfl
  | .cons t child rest => by
    by_cases h : t = text
    · simp [change, h]
    · simp [change, h, change_change text f g rest]

/-- Two writes to the cell at a place are one change of it. -/
theorem Cell.change_change (f g : Cell α → Cell α) (place : List Token) :
    Cell.change g place ∘ Cell.change f place = Cell.change (g ∘ f) place := by
  induction place with
  | nil => rfl
  | cons token rest ih =>
    funext ⟨literals, child, name, entry⟩
    cases token with
    | literal text => simp only [Function.comp_apply, change, Cells.change_change, ih]
    | capture v => simp only [Function.comp_apply, change, Option.map_map, ih]

theorem Branches.cells_change {f : Cell α → Cell α} {g : Node α → Node α}
    (h : ∀ n, f n.cell = (g n).cell) (text : String) : ∀ (bs : Branches α),
    bs.cells.change text f = (bs.change text g).cells
  | .nil => by simp [cells, Cells.change, change]
  | .cons t child rest => by
    by_cases heq : t = text
    · simp [cells, Cells.change, change, heq, h]
    · simp [cells, Cells.change, change, heq, cells_change h text rest]

/-- **Changes that agree on cells of nodes agree at every place.** -/
theorem Node.change_cell {f : Cell α → Cell α} {g : Node α → Node α}
    (h : ∀ n, f n.cell = (g n).cell) (place : List Token) : ∀ (n : Node α),
    Cell.change f place n.cell = (Node.change g place n).cell := by
  induction place with
  | nil => exact h
  | cons token rest ih =>
    rintro ⟨entry, literals, slot⟩
    cases token with
    | literal text =>
      cases slot <;> simp only [cell, change, Cell.change, Branches.cells_change ih]
    | capture v =>
      cases slot <;> simp only [cell, change, Cell.change, Slot.change, Option.map_none,
        Option.map_some, ih]

theorem Branches.cells_make (text : String) : ∀ (bs : Branches α),
    bs.cells.make text = (bs.update text id).cells
  | .nil => by simp [cells, Cells.make, update, Node.empty, Node.cell, Cell.empty]
  | .cons t child rest => by
    by_cases heq : t = text
    · simp [cells, Cells.make, update, heq]
    · simp [cells, Cells.make, update, heq, cells_make text rest]

theorem Node.makeLiteral_cell (text : String) : ∀ (n : Node α),
    Cell.makeLiteral text n.cell = (n.openChild (.literal text)).cell
  | ⟨_, _, .none⟩ | ⟨_, _, .some _ _⟩ => by
    simp only [cell, Cell.makeLiteral, openChild, Branches.cells_make]

/-- **The two writes for a variable come to the child under its name.** Between them a child that is
new has no name, and one that was there has its old one. -/
theorem Node.nameVariable_makeVariable_cell (name : String) : ∀ (n : Node α),
    (Cell.nameVariable name ∘ Cell.makeVariable) n.cell = (n.openChild (.capture name)).cell
  | ⟨_, _, .none⟩ | ⟨_, _, .some _ _⟩ => by
    simp [cell, Cell.makeVariable, Cell.nameVariable, openChild, Slot.update, Node.empty,
      Branches.cells, Cell.empty]

theorem Node.setEntry_cell (entry : α) : ∀ (n : Node α),
    Cell.setEntry entry n.cell = (n.setEntry entry).cell
  | ⟨_, _, .none⟩ | ⟨_, _, .some _ _⟩ => by simp only [cell, Cell.setEntry, setEntry]

end Route

/-! ## Tables of cells -/

/-- The cells of every method, methods in the order in which they came up, and what answers when
none matches. -/
structure Store (η : Type) where
  roots : List (Method × Route.Cell η)
  notFound : η

namespace Store

variable {η : Type}

/-- A table without routes. -/
def empty (notFound : η) : Store η := ⟨[], notFound⟩

/-- Changes the tree of a method, an empty one at the end if there was none. -/
def changeRoot (m : Method) (f : Route.Cell η → Route.Cell η) (s : Store η) : Store η :=
  { s with roots := go s.roots }
where
  go : List (Method × Route.Cell η) → List (Method × Route.Cell η)
    | [] => [(m, f .empty)]
    | (k, c) :: rest => if k = m then (k, f c) :: rest else (k, c) :: go rest

theorem changeRoot_changeRoot (m : Method) (f g : Route.Cell η → Route.Cell η) (s : Store η) :
    (s.changeRoot m f).changeRoot m g = s.changeRoot m (g ∘ f) := by
  have hgo : ∀ (roots : List (Method × Route.Cell η)),
      changeRoot.go m g (changeRoot.go m f roots) = changeRoot.go m (g ∘ f) roots := by
    intro roots
    induction roots with
    | nil => simp [changeRoot.go]
    | cons root roots ih =>
      by_cases heq : root.1 = m
      · simp [changeRoot.go, heq]
      · simp [changeRoot.go, heq, ih]
  simp only [changeRoot, hgo]

/-- The tree of a method. -/
def root? (s : Store η) (method : Method) : Option (Route.Cell η) :=
  (s.roots.find? (·.1 = method)).map Prod.snd

/-- The route that a request takes. -/
def resolve (s : Store η) (method : Method) (target : String) : Option (Route.Cell.Match η) := do
  let root ← s.root? method
  root.follow [] (Path.segments target)

/-- Lists the routes, one tree after the other. -/
def routes (s : Store η) (depth : Nat) : Except Route.Unlistable (List (Method × String)) :=
  go s.roots
where
  go : List (Method × Route.Cell η) → Except Route.Unlistable (List (Method × String))
    | [] => return []
    | (m, root) :: rest => do
      return (← root.walk depth []).map (m, ·) ++ (← go rest)

end Store

/-! ## Registering write by write -/

/-- What is done to a table of cells write by write. An error ends it and keeps what was written
before it. -/
abbrev Storing (η α : Type) := ExceptT RegistrationError (StateM (Store η)) α

namespace Storing

variable {η α β : Type}

/-- Goes on with what was found valid, and ends otherwise. -/
def ofExcept (outcome : Except RegistrationError α) : Storing η α := ExceptT.mk (pure outcome)

/-- Writes to the cell at a place in the tree of a method. -/
def write (m : Method) (place : List Token) (f : Route.Cell η → Route.Cell η) : Storing η Unit :=
  modify (·.changeRoot m (Route.Cell.change f place))

/-- Goes from the cell at a place to the one for a token, which is made if it is missing. A variable
gets its name afterwards. -/
def descend (m : Method) (place : List Token) : Token → Storing η (List Token)
  | .literal text => do
    write m place (.makeLiteral text)
    return place ++ [.literal text]
  | .capture name => do
    write m place .makeVariable
    write m place (.nameVariable name)
    return place ++ [.capture name]

/-- Registers a route through a view, write by write. A missing path is that of the root. -/
def addRoute (view : View) (method : Method.Given) (path : Option String)
    (handler : Candidate η) : Storing η Unit := do
  let h ← ofExcept ((handler.require "Route handler").mapError .notCallable)
  let m ← ofExcept (method.resolve.mapError .unknownMethod)
  let tokens ← ofExcept
    (((Path.segments (path.getD "")).mapM Token.ofSegment).mapError .blankVariable)
  write m [] id
  let place ← (view.map Token.literal).foldlM (descend m) []
  let place ← tokens.foldlM (descend m) place
  write m place (.setEntry h)

/-- Replaces what answers when no route matches. -/
def setNotFound (handler : Candidate η) : Storing η Unit := do
  let h ← ofExcept ((handler.require "Not-found handler").mapError .notCallable)
  modify ({ · with notFound := h })

end Storing

/-- A table of cells and the views of it that were made, the view of the whole table first. -/
structure Shelf (η : Type) where
  store : Store η
  views : List View

namespace Shelf

variable {η : Type}

/-- A table without routes, seen as a whole. -/
def new (notFound : η) : Shelf η := ⟨.empty notFound, [.root]⟩

/-- What is left in the cells when something was done to them, whether it failed or not. -/
def after (s : Shelf η) (x : Storing η Unit) : Shelf η := { s with store := (x.run.run s.store).2 }

/-- Makes a call. Through a view that was not made nothing happens. -/
def call (s : Shelf η) : RouterCall η → Shelf η
  | .mount i path =>
    match s.views[i]? with
    | some view => { s with views := s.views ++ [view.mount path] }
    | none => s
  | .add i method path handler =>
    match s.views[i]? with
    | some view => s.after (Storing.addRoute view (.token method) (some path) handler)
    | none => s
  | .setNotFound i handler =>
    match s.views[i]? with
    | some _ => s.after (Storing.setNotFound handler)
    | none => s

/-- Makes calls one after the other. -/
def run (s : Shelf η) (calls : List (RouterCall η)) : Shelf η := calls.foldl call s

end Shelf

/-! ## Tables of nodes in cells -/

variable {η α β : Type}

namespace RouteTable

/-- The cells that a table is kept in. -/
def store (t : RouteTable η) : Store η :=
  ⟨t.roots.map fun root => (root.1, root.2.cell), t.notFound⟩

theorem changeRoot_store {f : Route.Cell η → Route.Cell η} {g : Route.Node η → Route.Node η}
    (h : ∀ n, f n.cell = (g n).cell) (m : Method) (t : RouteTable η) :
    t.store.changeRoot m f = (t.changeRoot m g).store := by
  have hgo : ∀ (roots : List (Method × Route.Node η)),
      Store.changeRoot.go m f (roots.map fun root => (root.1, root.2.cell))
        = (updateRoot m g roots).map fun root => (root.1, root.2.cell) := by
    intro roots
    induction roots with
    | nil =>
      have hempty : (Route.Node.empty : Route.Node η).cell = .empty := by
        simp [Route.Node.empty, Route.Node.cell, Route.Branches.cells, Route.Cell.empty]
      simp [Store.changeRoot.go, updateRoot, ← h, hempty]
    | cons root roots ih =>
      by_cases heq : root.1 = m
      · simp [Store.changeRoot.go, updateRoot, heq, h]
      · simp [Store.changeRoot.go, updateRoot, heq, ih]
  rw [Store.changeRoot, store, hgo]
  rfl

theorem root?_store (t : RouteTable η) (method : Method) :
    t.store.root? method = (t.root? method).map Route.Node.cell := by
  rw [Store.root?, root?, store, List.find?_map, Option.map_map, Option.map_map]
  rfl

/-- **A request leads to the same in the cells,** and what is captured has a name. -/
theorem resolve_store (t : RouteTable η) (method : Method) (target : String) :
    t.store.resolve method target = (t.resolve method target).map Route.Match.named := by
  rw [Store.resolve, resolve, root?_store]
  cases t.root? method with
  | none => rfl
  | some root => exact root.follow_cell (Path.segments target) []

/-- The routes of the first tree come before those of the others. -/
theorem routes_cons (notFound : η) (m : Method) (n : Route.Node η)
    (roots : List (Method × Route.Node η)) (depth : Nat) :
    routes ⟨(m, n) :: roots, notFound⟩ depth
      = if n.list.all fun x => x.1.length ≤ depth then
          (routes ⟨roots, notFound⟩ depth).map
            ((n.list.map fun x => (m, Path.ofSegments (x.1.map Token.segment))) ++ ·)
        else .error ⟨⟩ := by
  have hlistable : isListable ⟨(m, n) :: roots, notFound⟩ depth
      = ((n.list.all fun x => x.1.length ≤ depth) && isListable ⟨roots, notFound⟩ depth) := by
    simp [isListable, entries, Function.comp_def]
  have htemplates : templates ⟨(m, n) :: roots, notFound⟩
      = (n.list.map fun x => (m, Path.ofSegments (x.1.map Token.segment)))
        ++ templates ⟨roots, notFound⟩ := by
    simp [templates, entries, Function.comp_def]
  rw [routes, routes, hlistable, htemplates]
  cases n.list.all fun x => x.1.length ≤ depth with
  | false => rfl
  | true => cases isListable ⟨roots, notFound⟩ depth <;> rfl

/-- **The same is listed of the cells,** one level per segment, and no variable is without a
name. -/
theorem routes_store {t : RouteTable η} (h : t.Tidy) (depth : Nat) :
    t.store.routes depth = (t.routes depth).mapError .tooDeep := by
  obtain ⟨roots, notFound⟩ := t
  have hgo : ∀ (roots : List (Method × Route.Node η)),
      (∀ root ∈ roots, root.2.Tidy ∧ root.2.list ≠ []) →
      Store.routes.go depth (roots.map fun root => (root.1, root.2.cell))
        = (routes ⟨roots, notFound⟩ depth).mapError .tooDeep := by
    intro roots
    induction roots with
    | nil => exact fun _ => rfl
    | cons root roots ih =>
      intro htrees
      obtain ⟨m, n⟩ := root
      obtain ⟨⟨htidy, hlist⟩, hrest⟩ := List.forall_mem_cons.mp htrees
      have hwalk : n.cell.walk depth [] = if n.list.all fun x => x.1.length ≤ depth
          then .ok (n.list.map fun x => Path.ofSegments (x.1.map Token.segment))
          else .error (.tooDeep ⟨⟩) := by
        rw [n.walk_cell depth [] htidy hlist, Route.listed]
        simp only [List.length_nil, Nat.zero_add, List.nil_append]
      rw [List.map_cons, Store.routes.go, ih hrest, routes_cons, hwalk]
      split
      · cases routes ⟨roots, notFound⟩ depth with
        | error e => rfl
        | ok rest => simp [Except.map, Except.mapError, bind, Except.bind, pure, Except.pure]
      · rfl
  exact hgo roots h.trees

end RouteTable

namespace Storing

/-! ## Write by write -/

/-- Whether in cells the same is done as in nodes. -/
def Follows (x : Storing η α) (y : Registering η α) : Prop :=
  ∀ t : RouteTable η, x.run.run t.store = ((y.run.run t).1, (y.run.run t).2.store)

theorem follows_pure (a : α) : Follows (pure a : Storing η α) (pure a) := fun _ => rfl

theorem follows_ofExcept (outcome : Except RegistrationError α) :
    Follows (ofExcept outcome : Storing η α) (Registering.ofExcept outcome) := fun _ => rfl

theorem follows_modify {f : Store η → Store η} {g : RouteTable η → RouteTable η}
    (h : ∀ t : RouteTable η, f t.store = (g t).store) :
    Follows (modify f : Storing η Unit) (modify g) := by
  intro t
  change (Except.ok (), f t.store) = (Except.ok (), (g t).store)
  rw [h]

theorem Follows.bind {x : Storing η α} {y : Registering η α} {rest : α → Storing η β}
    {rest' : α → Registering η β} (h : Follows x y) (hrest : ∀ a, Follows (rest a) (rest' a)) :
    Follows (x >>= rest) (y >>= rest') := by
  intro t
  have hx := h t
  cases hy : y.run.run t with
  | mk outcome t' =>
    rw [hy] at hx
    cases outcome with
    | error e =>
      rw [Registering.bind_of_error hy]
      rw [ExceptT.run_bind, StateT.run_bind, hx]
      rfl
    | ok a =>
      rw [Registering.bind_of_ok hy, ← hrest a t', ExceptT.run_bind, StateT.run_bind, hx]
      rfl

theorem Follows.foldlM {f : β → α → Storing η β} {g : β → α → Registering η β}
    (h : ∀ b a, Follows (f b a) (g b a)) (xs : List α) : ∀ (b : β),
    Follows (xs.foldlM f b) (xs.foldlM g b) := by
  induction xs with
  | nil => exact follows_pure
  | cons x xs ih =>
    intro b
    rw [List.foldlM_cons, List.foldlM_cons]
    exact (h b x).bind ih

theorem follows_write {f : Route.Cell η → Route.Cell η} {g : Route.Node η → Route.Node η}
    (h : ∀ n, f n.cell = (g n).cell) (m : Method) (place : List Token) :
    Follows (write m place f) (modify (RouteTable.changeRoot m (Route.Node.change g place))) :=
  follows_modify (RouteTable.changeRoot_store (Route.Node.change_cell h place) m)

/-- Two writes to one cell are one. -/
theorem write_write (m : Method) (place : List Token) (f g : Route.Cell η → Route.Cell η) :
    (do write m place f; write m place g) = write m place (g ∘ f) := by
  have hsame (s : Store η) :
      (s.changeRoot m (Route.Cell.change f place)).changeRoot m (Route.Cell.change g place)
        = s.changeRoot m (Route.Cell.change (g ∘ f) place) := by
    rw [Store.changeRoot_changeRoot, Route.Cell.change_change]
  funext s
  exact congrArg (fun s => (Except.ok (), s)) (hsame s)

theorem follows_descend (m : Method) (place : List Token) (token : Token) :
    Follows (descend m place token : Storing η (List Token))
      (Registering.descend m place token) := by
  cases token with
  | literal text =>
    exact (follows_write (Route.Node.makeLiteral_cell text) m place).bind fun _ => follows_pure _
  | capture name =>
    -- Only both writes together have a counterpart: between them the cells are those of no node.
    rw [Storing.descend, ← bind_assoc, write_write]
    exact (follows_write (Route.Node.nameVariable_makeVariable_cell name) m place).bind fun _ =>
      follows_pure _

theorem follows_addRoute (view : View) (method : Method.Given) (path : Option String)
    (handler : Candidate η) :
    Follows (addRoute view method path handler)
      (Registering.addRoute view method path handler) := by
  refine (follows_ofExcept _).bind fun h => (follows_ofExcept _).bind fun m =>
    (follows_ofExcept _).bind fun tokens => (follows_write (fun _ => rfl) m []).bind fun _ =>
    (Follows.foldlM (follows_descend m) _ _).bind fun place =>
    (Follows.foldlM (follows_descend m) _ _).bind fun place' => ?_
  exact follows_write (Route.Node.setEntry_cell h) m place'

theorem follows_setNotFound (handler : Candidate η) :
    Follows (setNotFound handler) (Registering.setNotFound handler) :=
  (follows_ofExcept _).bind fun _ => follows_modify fun _ => rfl

end Storing

/-! ## Calls -/

namespace Mounts

/-- The cells that a table is kept in, and its views. -/
def shelf (s : Mounts η) : Shelf η := ⟨s.table.store, s.views⟩

/-- What a registration leaves in the cells is what it leaves of the table as a whole. -/
theorem after_shelf {x : Storing η Unit} {y : Registering η Unit} (h : Storing.Follows x y)
    (s : Mounts η) {outcome : Except RegistrationError (RouteTable η)}
    (hy : y.run.run s.table = Registering.allOrNothing s.table outcome) :
    s.shelf.after x = (s.commit outcome).shelf := by
  rw [Shelf.after, shelf, h, hy]
  cases outcome <;> rfl

/-- **Every call leaves the cells of the table that it leaves,** whether it succeeds or fails. -/
theorem call_shelf (s : Mounts η) (c : RouterCall η) : s.shelf.call c = (s.call c).shelf := by
  cases c with
  | mount i path =>
    simp only [Shelf.call, call, shelf]
    cases s.views[i]? <;> rfl
  | add i method path handler =>
    rw [Shelf.call, call, show s.shelf.views[i]? = s.views[i]? from rfl]
    cases s.views[i]? with
    | none => rfl
    | some view =>
      exact after_shelf (Storing.follows_addRoute _ _ _ _) s (Registering.addRoute_run _ _ _ _ _)
  | setNotFound i handler =>
    rw [Shelf.call, call, show s.shelf.views[i]? = s.views[i]? from rfl]
    cases s.views[i]? with
    | none => rfl
    | some view => exact after_shelf (Storing.follows_setNotFound _) s (by cases handler <;> rfl)

theorem run_shelf (calls : List (RouterCall η)) : ∀ (s : Mounts η),
    s.shelf.run calls = (s.run calls).shelf := by
  induction calls with
  | nil => exact fun _ => rfl
  | cons c calls ih =>
    intro s
    rw [Shelf.run, List.foldl_cons, call_shelf]
    exact ih (s.call c)

/-- **The cells after any calls are those of the table.** -/
theorem store_run (notFound : η) (calls : List (RouterCall η)) :
    ((Shelf.new notFound).run calls).store = ((new notFound).run calls).table.store :=
  congrArg Shelf.store (run_shelf calls (new notFound))

end Mounts

end HttpKit
