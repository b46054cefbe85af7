import HttpKit.Proofs.Method
import HttpKit.Proofs.Router.Mounting

/-!
# Registrations that fail

A route is registered node by node: the tree of its method is planted, one node after the other is
gone to and made if it is missing, and the handler is set at the last one. Here this is written down
as changes of one table, made one by one, where an error keeps all that was changed before it. So it
has to be shown that a registration that fails changes nothing.

`Attempt.leaves_no_trace` says that it does not: everything that can be wrong is found out before
the first change, and what can be wrong is a handler that is none, a method that is none, or a
variable without a name. So calls that fail can be left out of any history.

## How the argument goes

* going to a node and then changing it there is one change of the tree (`Node.change_alter`), so
  that a walk makes the nodes that `Node.insert` makes (`Registering.walk`)
* all checks come first, so that a registration comes to what `RouteTable.add` says or to nothing
  (`Registering.addRoute_run`)
* what is checked is what can be wrong (`RouteTable.exists_add_iff`)
* each call that fails leaves the table for the next one as it was (`Attempt.after_kept`), by
  induction on the calls
-/

namespace HttpKit

namespace Route

variable {α : Type}

/-! ## Changes of one node -/

/-- Changes the child for a text, if there is one. -/
def Branches.change (text : String) (f : Node α → Node α) : Branches α → Branches α
  | nil => nil
  | cons t child rest =>
    if t = text then cons t (f child) rest else cons t child (rest.change text f)

/-- Changes the child for a variable, if there is one. -/
def Slot.change (f : Node α → Node α) : Slot α → Slot α
  | none => none
  | some name child => some name (f child)

/-- Changes the node at a place, if there is one. -/
def Node.change (f : Node α → Node α) : List Token → Node α → Node α
  | [], n => f n
  | .literal text :: rest, ⟨entry, literals, slot⟩ =>
    ⟨entry, literals.change text (Node.change f rest), slot⟩
  | .capture _ :: rest, ⟨entry, literals, slot⟩ =>
    ⟨entry, literals, slot.change (Node.change f rest)⟩

/-- Makes the child that a token leads to if it is missing. A variable takes its new name. -/
def Node.openChild : Token → Node α → Node α
  | .literal text, ⟨entry, literals, slot⟩ => ⟨entry, literals.update text id, slot⟩
  | .capture name, ⟨entry, literals, slot⟩ => ⟨entry, literals, slot.update name id⟩

/-- Sets what is registered at the node itself. -/
def Node.setEntry (entry : α) : Node α → Node α
  | ⟨_, literals, slot⟩ => ⟨some entry, literals, slot⟩

/-- Changes the node at a place, which is made if it is missing. The variables on the way take the
names of this place. -/
def Node.alter (f : Node α → Node α) : List Token → Node α → Node α
  | [], n => f n
  | .literal text :: rest, ⟨entry, literals, slot⟩ =>
    ⟨entry, literals.update text (Node.alter f rest), slot⟩
  | .capture name :: rest, ⟨entry, literals, slot⟩ =>
    ⟨entry, literals, slot.update name (Node.alter f rest)⟩

theorem Branches.change_update (text : String) (f g : Node α → Node α) : ∀ (bs : Branches α),
    (bs.update text f).change text g = bs.update text (g ∘ f)
  | .nil => by simp [update, change]
  | .cons t child rest => by
    by_cases h : t = text
    · simp [update, change, h]
    · simp [update, change, h, Branches.change_update text f g rest]

theorem Slot.change_update (name : String) (f g : Node α → Node α) (s : Slot α) :
    (s.update name f).change g = s.update name (g ∘ f) := by
  cases s <;> rfl

/-- **A node that was made or found can be changed further.** -/
theorem Node.change_alter (f g : Node α → Node α) (place : List Token) :
    Node.change g place ∘ Node.alter f place = Node.alter (g ∘ f) place := by
  induction place with
  | nil => rfl
  | cons token rest ih =>
    funext ⟨entry, literals, slot⟩
    cases token with
    | literal text =>
      simp only [Function.comp_apply, alter, change, Branches.change_update, ih]
    | capture name =>
      simp only [Function.comp_apply, alter, change, Slot.change_update, ih]

theorem Node.alter_append (f : Node α → Node α) (place more : List Token) :
    Node.alter f (place ++ more) = Node.alter (Node.alter f more) place := by
  induction place with
  | nil => rfl
  | cons token rest ih =>
    funext ⟨entry, literals, slot⟩
    cases token <;> simp only [List.cons_append, alter, ih]

theorem Node.alter_singleton (token : Token) :
    Node.alter id [token] = (Node.openChild token : Node α → Node α) := by
  funext ⟨entry, literals, slot⟩
  cases token <;> rfl

theorem Node.insert_eq_alter (entry : α) (tokens : List Token) :
    Node.insert entry tokens = Node.alter (Node.setEntry entry) tokens := by
  induction tokens with
  | nil =>
    funext ⟨e, literals, slot⟩
    rfl
  | cons token rest ih =>
    funext ⟨e, literals, slot⟩
    cases token <;> simp only [insert, alter, ih]

end Route

variable {η : Type}

namespace RouteTable

/-! ## Changes of one tree -/

/-- Changes the tree of a method, which is made if it is missing. -/
def changeRoot (m : Method) (f : Route.Node η → Route.Node η) (t : RouteTable η) : RouteTable η :=
  { t with roots := updateRoot m f t.roots }

theorem updateRoot_updateRoot (m : Method) (f g : Route.Node η → Route.Node η) :
    ∀ (roots : List (Method × Route.Node η)),
    updateRoot m g (updateRoot m f roots) = updateRoot m (g ∘ f) roots
  | [] => by simp [updateRoot]
  | (k, node) :: rest => by
    by_cases h : k = m
    · simp [updateRoot, h]
    · simp [updateRoot, h, updateRoot_updateRoot m f g rest]

theorem changeRoot_changeRoot (m : Method) (f g : Route.Node η → Route.Node η)
    (t : RouteTable η) : (t.changeRoot m f).changeRoot m g = t.changeRoot m (g ∘ f) := by
  simp only [changeRoot, updateRoot_updateRoot]

theorem insert_eq_changeRoot (t : RouteTable η) (m : Method) (tokens : List Token) (handler : η) :
    t.insert m tokens handler
      = t.changeRoot m (Route.Node.alter (Route.Node.setEntry handler) tokens) := by
  rw [insert, Route.Node.insert_eq_alter, changeRoot]

end RouteTable

/-! ## Methods that are handed over -/

namespace Method

/-- What is handed over where a method is expected: one of them, or a token that may be missing. -/
inductive Given where
  | method (m : Method)
  | token (token : Option String)

namespace Given

/-- The token that it comes down to. -/
def toToken : Given → Option String
  | method m => some m.name
  | token t => t

/-- The method that is meant. A method is taken as it is. -/
def resolve : Given → Except Unknown Method
  | method m => .ok m
  | token t => ofToken t

/-- Whether a method is meant: a token is the name of one in any casing. -/
def IsKnown : Given → Prop
  | method _ => True
  | token t => ∃ s ∈ t, ∃ m : Method, Text.upper s = m.name

theorem resolve_eq (g : Given) : g.resolve = ofToken g.toToken := by
  cases g with
  | method m => exact (ofToken_name m).symm
  | token t => rfl

/-- Every token that is the name of a method but for its casing is known, and no other. -/
theorem exists_resolve_iff (g : Given) : (∃ m, g.resolve = .ok m) ↔ g.IsKnown := by
  cases g with
  | method m => simp [resolve, IsKnown]
  | token t =>
    cases t with
    | none => simp [resolve, ofToken, IsKnown]
    | some s =>
      have hname : (∃ m, ofToken? s = some m) ↔ ∃ m : Method, Text.upper s = m.name := by
        constructor
        · rintro ⟨m, hm⟩
          exact ⟨m, by simpa [eq_comm] using List.find?_some hm⟩
        · rintro ⟨m, hm⟩
          exact ⟨m, by rw [ofToken?, hm, find?_all_name]⟩
      cases h : ofToken? s <;> simp [resolve, ofToken, IsKnown, h, ← hname]

end Given

end Method

/-! ## Registering step by step -/

/-- What is done to a table step by step. An error ends it and keeps what was done before. -/
abbrev Registering (η α : Type) := ExceptT RegistrationError (StateM (RouteTable η)) α

namespace Registering

variable {α β : Type}

/-- Goes on with what was found valid, and ends otherwise. -/
def ofExcept (outcome : Except RegistrationError α) : Registering η α :=
  ExceptT.mk (pure outcome)

/-- Goes from the node at a place to the child for a token, which is made if it is missing. -/
def descend (m : Method) (place : List Token) (token : Token) : Registering η (List Token) := do
  modify (·.changeRoot m (Route.Node.change (Route.Node.openChild token) place))
  return place ++ [token]

/-- Registers a route through a view, node by node. A missing path is that of the root. -/
def addRoute (view : View) (method : Method.Given) (path : Option String)
    (handler : Candidate η) : Registering η Unit := do
  let h ← ofExcept ((handler.require "Route handler").mapError .notCallable)
  let m ← ofExcept (method.resolve.mapError .unknownMethod)
  let tokens ← ofExcept
    (((Path.segments (path.getD "")).mapM Token.ofSegment).mapError .blankVariable)
  modify (·.changeRoot m id)
  let place ← (view.map Token.literal).foldlM (descend m) []
  let place ← tokens.foldlM (descend m) place
  modify (·.changeRoot m (Route.Node.change (Route.Node.setEntry h) place))

/-- Registers a route as a decorator does: the handler is handed back. -/
def route (view : View) (path : Option String) (method : Method.Given) (handler : Candidate η) :
    Registering η (Candidate η) := do
  addRoute view method path handler
  return handler

/-- Replaces what answers when no route matches. -/
def setNotFound (handler : Candidate η) : Registering η Unit := do
  let h ← ofExcept ((handler.require "Not-found handler").mapError .notCallable)
  modify ({ · with notFound := h })

theorem bind_of_ok {x : Registering η α} {t t' : RouteTable η} {a : α}
    (h : x.run.run t = (.ok a, t')) (rest : α → Registering η β) :
    (x >>= rest).run.run t = (rest a).run.run t' := by
  rw [ExceptT.run_bind, StateT.run_bind, h]
  rfl

theorem bind_of_error {x : Registering η α} {t t' : RouteTable η} {e : RegistrationError}
    (h : x.run.run t = (.error e, t')) (rest : α → Registering η β) :
    (x >>= rest).run.run t = (.error e, t') := by
  rw [ExceptT.run_bind, StateT.run_bind, h]
  rfl

/-- **Going down a tree makes the nodes on the way and no others.** A walk that starts at a place
that was gone to ends at a place that was gone to. -/
theorem walk (m : Method) (tokens : List Token) : ∀ (place : List Token) (t : RouteTable η),
    (tokens.foldlM (descend m) place : Registering η (List Token)).run.run
        (t.changeRoot m (Route.Node.alter id place))
      = (.ok (place ++ tokens), t.changeRoot m (Route.Node.alter id (place ++ tokens))) := by
  induction tokens with
  | nil =>
    intro place t
    rw [List.append_nil]
    rfl
  | cons token tokens ih =>
    intro place t
    have hstep : (descend m place token : Registering η (List Token)).run.run
        (t.changeRoot m (Route.Node.alter id place))
          = (.ok (place ++ [token]), t.changeRoot m (Route.Node.alter id (place ++ [token]))) := by
      rw [Route.Node.alter_append, Route.Node.alter_singleton, ← Function.comp_id
        (Route.Node.openChild token), ← Route.Node.change_alter, ← RouteTable.changeRoot_changeRoot]
      rfl
    rw [List.foldlM_cons, bind_of_ok hstep, ih, List.append_assoc, List.singleton_append]

/-- What a change of a table comes to when a failure leaves the table as it is. -/
def allOrNothing (t : RouteTable η) :
    Except RegistrationError (RouteTable η) → Except RegistrationError Unit × RouteTable η
  | .ok t' => (.ok (), t')
  | .error e => (.error e, t)

/-- **A route is registered as a whole or not at all.** -/
theorem addRoute_run (view : View) (method : Method.Given) (path : Option String)
    (handler : Candidate η) (t : RouteTable η) :
    (addRoute view method path handler).run.run t
      = allOrNothing t (t.add view method.toToken (path.getD "") handler) := by
  rw [addRoute, method.resolve_eq]
  cases handler with
  | datum value => rfl
  | function h =>
    cases hm : Method.ofToken method.toToken with
    | error e =>
      simp only [RouteTable.add, hm]
      rfl
    | ok m =>
      cases hts : (Path.segments (path.getD "")).mapM Token.ofSegment with
      | error e =>
        simp only [RouteTable.add, hm, RouteTable.tokens_eq, hts]
        rfl
      | ok ts =>
        have htokens : RouteTable.tokens view (path.getD "") = .ok (view.map .literal ++ ts) :=
          RouteTable.tokens_eq_ok_iff.mpr ⟨ts, hts, rfl⟩
        rw [RouteTable.add_of_tokens hm htokens, RouteTable.insert_eq_changeRoot]
        -- Three checks that succeed, the tree of the method, and the walks to the last node.
        refine (bind_of_ok rfl _).trans ((bind_of_ok rfl _).trans ((bind_of_ok rfl _).trans
          ((bind_of_ok rfl _).trans ?_)))
        refine (bind_of_ok (walk m _ [] t) _).trans ((bind_of_ok (walk m ts _ t) _).trans ?_)
        rw [← Function.comp_id (Route.Node.setEntry h), ← Route.Node.change_alter,
          ← RouteTable.changeRoot_changeRoot]
        rfl

end Registering

/-! ## What can be wrong -/

/-- Whether a segment is a variable in braces that has nothing but blanks for a name. -/
def Token.IsBlankVariable (segment : String) : Prop :=
  ∃ name : List Char, name ≠ [] ∧ (∀ c ∈ name, Text.isBlank c = true)
    ∧ segment.toList = '\x7b' :: (name ++ ['\x7d'])

theorem Token.exists_ofSegment_iff (s : String) :
    (∃ token, Token.ofSegment s = .ok token) ↔ ¬IsBlankVariable s := by
  by_cases hbraced : IsBraced s
  · obtain ⟨inner, hne, hs⟩ := hbraced
    have hblank : IsBlankVariable s ↔ ∀ c ∈ inner, Text.isBlank c = true := by
      refine ⟨?_, fun h => ⟨inner, hne, h, hs⟩⟩
      rintro ⟨name, -, hname, hs'⟩
      rw [hs, List.cons.injEq, List.append_left_inj] at hs'
      exact hs'.2 ▸ hname
    rw [ofSegment_of_inner hne hs, hblank, ← List.all_eq_true]
    cases inner.all Text.isBlank <;> simp
  · have hnot : ¬IsBlankVariable s := fun ⟨name, hne, _, hs⟩ => hbraced ⟨name, hne, hs⟩
    simp [ofSegment_of_not_isBraced hbraced, hnot]

theorem Token.exists_mapM_ofSegment_iff (ss : List String) :
    (∃ tokens, ss.mapM Token.ofSegment = .ok tokens) ↔ ∀ s ∈ ss, ¬IsBlankVariable s := by
  simp only [← exists_ofSegment_iff, mapM_ofSegment_eq_ok_iff]
  induction ss with
  | nil => simp
  | cons s ss ih => simp [List.forall₂_cons_left_iff, ← ih]

/-- Whether something is wrong with what a route is registered with. -/
def RouteFault (method : Method.Given) (path : Option String) (handler : Candidate η) : Prop :=
  (∃ value, handler = .datum value) ∨ ¬method.IsKnown
    ∨ ∃ s ∈ Path.segments (path.getD ""), Token.IsBlankVariable s

theorem RouteTable.exists_add_iff (t : RouteTable η) (view : View) (method : Method.Given)
    (path : Option String) (handler : Candidate η) :
    (∃ t', t.add view method.toToken (path.getD "") handler = .ok t')
      ↔ ¬RouteFault method path handler := by
  rw [RouteFault, not_or, not_or, not_not, ← method.exists_resolve_iff, method.resolve_eq]
  constructor
  · rintro ⟨t', h⟩
    obtain ⟨r, hr, -⟩ := add_eq_ok_iff.mp h
    unfold Registration.of? at hr
    split at hr
    · next m ts hm hts =>
      obtain ⟨more, hmore, -⟩ := tokens_eq_ok_iff.mp hts
      have hblank := (Token.exists_mapM_ofSegment_iff _).mp ⟨more, hmore⟩
      exact ⟨by simp, ⟨m, hm⟩, by simpa using hblank⟩
    · simp at hr
  · rintro ⟨hdatum, ⟨m, hm⟩, hblank⟩
    cases handler with
    | datum value => exact absurd ⟨value, rfl⟩ hdatum
    | function h =>
      obtain ⟨more, hmore⟩ := (Token.exists_mapM_ofSegment_iff _).mpr
        fun s hs hb => hblank ⟨s, hs, hb⟩
      exact ⟨_, add_of_tokens hm (tokens_eq_ok_iff.mpr ⟨more, hmore, rfl⟩) t h⟩

/-! ## Attempts one after the other -/

/-- A call that changes a table: a route, a route by a decorator, or what answers when none
matches. -/
inductive Attempt (η : Type) where
  | addRoute (view : View) (method : Method.Given) (path : Option String) (handler : Candidate η)
  | route (view : View) (path : Option String) (method : Method.Given) (handler : Candidate η)
  | setNotFound (handler : Candidate η)

namespace Attempt

/-- What is done to the table. -/
def steps : Attempt η → Registering η Unit
  | addRoute view method path handler => Registering.addRoute view method path handler
  | route view path method handler => do
    let _ ← Registering.route view path method handler
    return ()
  | setNotFound handler => Registering.setNotFound handler

/-- What comes of a call, and the table after it. -/
def on (a : Attempt η) (t : RouteTable η) : Except RegistrationError Unit × RouteTable η :=
  a.steps.run.run t

/-- The table that a call is for. -/
def added (t : RouteTable η) : Attempt η → Except RegistrationError (RouteTable η)
  | addRoute view method path handler => t.add view method.toToken (path.getD "") handler
  | route view path method handler => t.add view method.toToken (path.getD "") handler
  | setNotFound handler => t.setNotFound handler

/-- Whether something is wrong with a call. -/
def IsFaulty : Attempt η → Prop
  | addRoute _ method path handler => RouteFault method path handler
  | route _ path method handler => RouteFault method path handler
  | setNotFound handler => ∃ value, handler = .datum value

/-- The table after calls, whether they fail or not. -/
def after (t : RouteTable η) (calls : List (Attempt η)) : RouteTable η :=
  calls.foldl (fun t a => (a.on t).2) t

/-- The calls that do not fail. -/
def kept (t : RouteTable η) : List (Attempt η) → List (Attempt η)
  | [] => []
  | a :: calls =>
    match a.on t with
    | (.ok _, t') => a :: kept t' calls
    | (.error _, t') => kept t' calls

theorem on_eq (a : Attempt η) (t : RouteTable η) :
    a.on t = Registering.allOrNothing t (a.added t) := by
  cases a with
  | addRoute view method path handler => exact Registering.addRoute_run view method path handler t
  | route view path method handler =>
    have hroute := Registering.addRoute_run view method path handler t
    rw [added]
    cases hadd : t.add view method.toToken (path.getD "") handler with
    | error e =>
      rw [hadd] at hroute
      exact Registering.bind_of_error (Registering.bind_of_error hroute _) _
    | ok t' =>
      rw [hadd] at hroute
      exact (Registering.bind_of_ok (Registering.bind_of_ok hroute _) _).trans rfl
  | setNotFound handler => cases handler <;> rfl

theorem exists_added_iff (a : Attempt η) (t : RouteTable η) :
    (∃ t', a.added t = .ok t') ↔ ¬a.IsFaulty := by
  cases a with
  | addRoute view method path handler => exact t.exists_add_iff view method path handler
  | route view path method handler => exact t.exists_add_iff view method path handler
  | setNotFound handler =>
    cases handler with
    | datum value => exact ⟨fun ⟨_, h⟩ => (nomatch h), fun h => absurd ⟨value, rfl⟩ h⟩
    | function h => exact ⟨fun _ ⟨_, hdatum⟩ => (nomatch hdatum), fun _ => ⟨_, rfl⟩⟩

/-- **Calls that fail can be left out.** -/
theorem after_kept (calls : List (Attempt η)) : ∀ (t : RouteTable η),
    after t (kept t calls) = after t calls := by
  induction calls with
  | nil => exact fun _ => rfl
  | cons a calls ih =>
    intro t
    have hon := a.on_eq t
    cases hadded : a.added t with
    | error e =>
      rw [hadded, Registering.allOrNothing] at hon
      rw [kept, hon, ih t, after, after, List.foldl_cons, hon]
    | ok t' =>
      rw [hadded, Registering.allOrNothing] at hon
      have hafter := ih t'
      simp only [after] at hafter
      simp only [kept, hon, after, List.foldl_cons, hafter]

/-- **A registration that fails leaves no trace.** Made step by step, it comes to what the table
says of it as a whole, and a failure leaves the table that was there before. It fails if and only if
what is handed over for a handler is none, a method is not known, or a segment of the template is a
variable without a name, wherever it stands. So the table after any calls, and with it how requests
are dispatched and what is listed, is the same when those that fail are left out. -/
theorem leaves_no_trace (t : RouteTable η) :
    (∀ a : Attempt η, a.on t = Registering.allOrNothing t (a.added t)
      ∧ ((∃ e, a.on t = (.error e, t)) ↔ a.IsFaulty)
      ∧ ((∃ t', a.on t = (.ok (), t')) ↔ ¬a.IsFaulty))
    ∧ ∀ calls : List (Attempt η), after t (kept t calls) = after t calls := by
  refine ⟨fun a => ⟨a.on_eq t, ?_⟩, fun calls => after_kept calls t⟩
  have hadded := a.exists_added_iff t
  rw [a.on_eq t, ← hadded, ← not_iff_not, ← hadded]
  cases a.added t <;> simp [Registering.allOrNothing]

/-- The last segment of a template is found out before a node is made for the first. -/
example : (addRoute .root (.token (some "get")) (some "/a/\x7bid\x7d/\x7b \x7d")
      (.function ())).on (.empty ())
    = (.error (.blankVariable ⟨"\x7b \x7d"⟩), .empty ()) := rfl

end Attempt

end HttpKit
