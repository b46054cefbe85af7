import HttpKit.Proofs.Route.Tree
import HttpKit.Router

/-!
# Dispatch by a flat list of registrations

A router is configured through views of it: routes are added, views are mounted, and what answers
when nothing matches is replaced. Its table keeps trees with shared slots for variables. Here the
same calls are also written down as a plain list, and a request is answered from that list alone:
segment by segment, the registrations that have the segment as text are kept, else those that have
a variable there, and of those kept the latest that ends with the path answers.

`handle?_run` says that both give the same answer, after every sequence of calls and through every
view. The invariant `Holds` says that the tree of a method is the tree of its registrations.
-/

namespace HttpKit

variable {η : Type}

/-! ## Calls -/

/-- A call that configures a router through one of its views, which is given by its place. -/
inductive RouterCall (η : Type) where
  | mount (view : Nat) (path : String)
  | add (view : Nat) (method : Option String) (path : String) (handler : Candidate η)
  | setNotFound (view : Nat) (handler : Candidate η)

/-- A table and the views of it that were made, the view of the whole table first. -/
structure Mounts (η : Type) where
  table : RouteTable η
  views : List View

namespace Mounts

/-- A table without routes, seen as a whole. -/
def new (notFound : η) : Mounts η := ⟨.empty notFound, [.root]⟩

/-- What a change of the table leaves: when it fails, all is as it was. -/
def commit (s : Mounts η) : Except RegistrationError (RouteTable η) → Mounts η
  | .ok table => { s with table }
  | .error _ => s

/-- Makes a call. Through a view that was not made nothing happens. -/
def call (s : Mounts η) : RouterCall η → Mounts η
  | .mount i path =>
    match s.views[i]? with
    | some view => { s with views := s.views ++ [view.mount path] }
    | none => s
  | .add i method path handler =>
    match s.views[i]? with
    | some view => s.commit (s.table.add view method path handler)
    | none => s
  | .setNotFound i handler =>
    match s.views[i]? with
    | some _ => s.commit (s.table.setNotFound handler)
    | none => s

/-- Makes calls one after the other. -/
def run (s : Mounts η) (calls : List (RouterCall η)) : Mounts η := calls.foldl call s

/-- The handler that a view is. -/
def handle? {ω : Type} (s : Mounts (Handler ω)) (i : Nat) : Option (Handler ω) :=
  s.views[i]?.map fun _ => Router.handle s.table

end Mounts

/-! ## The flat list -/

/-- A route as it was registered. -/
structure Registration (η : Type) where
  method : Method
  tokens : List Token
  handler : η

namespace Registration

/-- The registration that a call for a route makes, if all that it gives is valid. -/
def of? (view : View) (method : Option String) (path : String) (handler : Candidate η) :
    Option (Registration η) :=
  match handler, Method.ofToken method, RouteTable.tokens view path with
  | .function handler, .ok method, .ok tokens => some ⟨method, tokens, handler⟩
  | _, _, _ => none

/-- The name of the variable at a place, if there is a variable. -/
def nameAt? (r : Registration η) (place : Nat) : Option String :=
  match r.tokens[place]? with
  | some (.capture name) => some name
  | _ => none

end Registration

/-- The views made, the routes registered in order, and what answers when none matches. -/
structure RouteList (η : Type) where
  views : List View
  routes : List (Registration η)
  notFound : η

namespace RouteList

/-- No routes, seen as a whole. -/
def new (notFound : η) : RouteList η := ⟨[.root], [], notFound⟩

/-- Writes a call down. -/
def call (l : RouteList η) : RouterCall η → RouteList η
  | .mount i path =>
    match l.views[i]? with
    | some view => { l with views := l.views ++ [view.mount path] }
    | none => l
  | .add i method path handler =>
    match l.views[i]? with
    | some view =>
      { l with routes := l.routes ++ (Registration.of? view method path handler).toList }
    | none => l
  | .setNotFound i handler =>
    match l.views[i]?, handler with
    | some _, .function h => { l with notFound := h }
    | _, _ => l

/-- Writes calls down one after the other. -/
def run (l : RouteList η) (calls : List (RouterCall η)) : RouteList η := calls.foldl call l

/-- Follows segments from a place on. Of the routes kept so far, those that have the segment as
text are kept, else those that have a variable there; it is captured under the name that the latest
of them gives. In the end the latest route that ends here is taken. -/
def follow (captured : Captures) :
    Nat → List String → List (Registration η) → Option (Route.Match η)
  | place, [], kept =>
    (kept.filter (·.tokens.length = place)).getLast?.map fun r => ⟨r.handler, captured⟩
  | place, segment :: rest, kept =>
    let literals := kept.filter (·.tokens[place]? = some (.literal segment))
    let captures := kept.filter (·.nameAt? place |>.isSome)
    if literals ≠ [] then follow captured (place + 1) rest literals
    else
      match captures.getLast?.bind (·.nameAt? place) with
      | some name => follow (Assoc.insert name segment captured) (place + 1) rest captures
      | none => none

/-- The route that a request takes. -/
def resolve (l : RouteList η) (method : Method) (target : String) : Option (Route.Match η) :=
  follow [] 0 (Path.segments target) (l.routes.filter (·.method = method))

/-- Answers a request: the route that it takes gets it with what was captured. -/
def handle {ω : Type} (l : RouteList (Handler ω)) : Handler ω := fun request =>
  match l.resolve request.method request.target with
  | some route => route.entry (request.withCaptures route.captured)
  | none => l.notFound request

/-- The handler that a view is. -/
def handle? {ω : Type} (l : RouteList (Handler ω)) (i : Nat) : Option (Handler ω) :=
  l.views[i]?.map fun _ => l.handle

end RouteList

/-! ## The trees of a list -/

namespace Registration

/-- What is left of a registration from a place on. -/
def dropTo (r : Registration η) (place : Nat) : List Token × η := (r.tokens.drop place, r.handler)

theorem tailAfter?_dropTo (r : Registration η) (place : Nat) (s : String) :
    Route.tailAfter? s (r.dropTo place)
      = if r.tokens[place]? = some (.literal s) then some (r.dropTo (place + 1)) else none := by
  unfold dropTo
  rw [← List.head?_drop, ← List.tail_drop]
  match r.tokens.drop place with
  | [] => simp [Route.tailAfter?]
  | .literal t :: rest => simp [Route.tailAfter?]
  | .capture name :: rest => simp [Route.tailAfter?]

theorem tailBelow?_dropTo (r : Registration η) (place : Nat) :
    Route.tailBelow? (r.dropTo place)
      = (r.nameAt? place).map fun name => (name, r.dropTo (place + 1)) := by
  unfold dropTo nameAt?
  rw [← List.head?_drop, ← List.tail_drop]
  match r.tokens.drop place with
  | [] => simp [Route.tailBelow?]
  | .literal t :: rest => simp [Route.tailBelow?]
  | .capture name :: rest => simp [Route.tailBelow?]

theorem lt_length_of_nameAt? {r : Registration η} {place : Nat} (h : (r.nameAt? place).isSome) :
    place < r.tokens.length := by
  by_contra hp
  simp [nameAt?, List.getElem?_eq_none (Nat.le_of_not_lt hp)] at h

end Registration

/-- The registrations that go on below the child for a text are those that have the text. -/
theorem filterMap_tailAfter? (place : Nat) (s : String) (kept : List (Registration η)) :
    (kept.map (·.dropTo place)).filterMap (Route.tailAfter? s)
      = (kept.filter (·.tokens[place]? = some (.literal s))).map (·.dropTo (place + 1)) := by
  induction kept with
  | nil => rfl
  | cons r kept ih =>
    rw [List.map_cons, List.filterMap_cons, Registration.tailAfter?_dropTo, ih]
    by_cases h : r.tokens[place]? = some (.literal s) <;> simp [h]

/-- The registrations that go on below the child for a variable are those that have one. -/
theorem filterMap_tailBelow? (place : Nat) (kept : List (Registration η)) :
    (kept.map (·.dropTo place)).filterMap Route.tailBelow?
      = (kept.filter (·.nameAt? place |>.isSome)).map
          fun r => ((r.nameAt? place).getD "", r.dropTo (place + 1)) := by
  induction kept with
  | nil => rfl
  | cons r kept ih =>
    rw [List.map_cons, List.filterMap_cons, Registration.tailBelow?_dropTo, ih]
    cases h : r.nameAt? place <;> simp [h]

/-- The registrations that leave nothing beyond a place are those that end there. -/
theorem filter_dropTo_nil {place : Nat} {kept : List (Registration η)}
    (h : ∀ r ∈ kept, place ≤ r.tokens.length) :
    (kept.map (·.dropTo place)).filter (·.1 = [])
      = (kept.filter (·.tokens.length = place)).map (·.dropTo place) := by
  rw [List.filter_map]
  congr 1
  refine List.filter_congr fun r hr => ?_
  have := h r hr
  simp only [Registration.dropTo, Function.comp_apply, List.drop_eq_nil_iff, decide_eq_decide]
  omega

/-- The name that the latest registration with a variable gives it. -/
theorem name_getLast? (place : Nat) (kept : List (Registration η)) :
    ((kept.map (·.dropTo place)).filterMap Route.tailBelow?).getLast?.map Prod.fst
      = (kept.filter (·.nameAt? place |>.isSome)).getLast?.bind (·.nameAt? place) := by
  rw [filterMap_tailBelow?, List.getLast?_map]
  cases h : (kept.filter (·.nameAt? place |>.isSome)).getLast? with
  | none => rfl
  | some r =>
    have hr := (List.mem_filter.mp (List.mem_of_getLast? h)).2
    obtain ⟨name, hn⟩ := Option.isSome_iff_exists.mp hr
    simp [hn]

namespace RouteList

/-- Nothing is found where nothing is kept. -/
theorem follow_eq_none (captured : Captures) (place : Nat) : ∀ (segments : List String),
    follow captured place segments ([] : List (Registration η)) = none
  | [] => rfl
  | _ :: _ => rfl

/-- **Following a path in the tree of the registrations kept is following it in their list.** Only
registrations that reach the place take part. -/
theorem follow_ofEntries (segments : List String) :
    ∀ (captured : Captures) (place : Nat) (kept : List (Registration η)),
    (∀ r ∈ kept, place ≤ r.tokens.length) →
    (Route.Node.ofEntries (kept.map (·.dropTo place))).follow captured segments
      = follow captured place segments kept := by
  induction segments with
  | nil =>
    intro captured place kept h
    rw [Route.Node.follow_nil, Route.Node.entry_ofEntries, filter_dropTo_nil h, List.getLast?_map,
      follow]
    cases (kept.filter (·.tokens.length = place)).getLast? <;> rfl
  | cons s rest ih =>
    intro captured place kept h
    rw [Route.Node.follow_cons, Route.Node.get?_ofEntries, Route.Node.slot_ofEntries,
      filterMap_tailAfter?, name_getLast?, filterMap_tailBelow?, follow]
    -- There is a child for the text exactly when some registration kept has the text here; only
    -- without one does the child for a variable come in.
    by_cases hl : kept.filter (·.tokens[place]? = some (.literal s)) = []
    · simp only [hl, List.map_nil, Route.Node.ofEntries?, if_true, ne_eq, not_true, if_false]
      cases (kept.filter (·.nameAt? place |>.isSome)).getLast?.bind (·.nameAt? place) with
      | none => rfl
      | some name =>
        simp only [Route.Slot.ofEntries, List.map_map, Function.comp_def]
        refine ih _ _ _ fun r hr => ?_
        exact Registration.lt_length_of_nameAt? (List.mem_filter.mp hr).2
    · simp only [Route.Node.ofEntries?, List.map_eq_nil_iff, hl, if_false, ne_eq, not_false_iff,
        if_true]
      refine ih _ _ _ fun r hr => ?_
      have htoken := (List.mem_filter.mp hr).2
      simp only [decide_eq_true_eq] at htoken
      exact (List.getElem?_eq_some_iff.mp htoken).1

end RouteList

/-! ## The invariant -/

namespace RouteTable

theorem find?_updateRoot (method m : Method) (f : Route.Node η → Route.Node η) :
    ∀ (roots : List (Method × Route.Node η)),
    ((updateRoot method f roots).find? (·.1 = m)).map Prod.snd
      = if method = m then some (f (((roots.find? (·.1 = m)).map Prod.snd).getD .empty))
        else (roots.find? (·.1 = m)).map Prod.snd
  | [] => by by_cases h : method = m <;> simp [updateRoot, h]
  | (k, node) :: rest => by
    have ih := find?_updateRoot method m f rest
    by_cases hk : k = method
    · subst hk
      by_cases h : k = m <;> simp [updateRoot, h]
    · rw [updateRoot, if_neg hk]
      by_cases hm : k = m
      · subst hm
        simp [Ne.symm hk]
      · simp [hm, ih]

/-- A registration changes the tree of its method and no other. -/
theorem root?_insert (t : RouteTable η) (r : Registration η) (m : Method) :
    (t.insert r.method r.tokens r.handler).root? m
      = if r.method = m then some (((t.root? m).getD .empty).insert r.handler r.tokens)
        else t.root? m :=
  find?_updateRoot r.method m _ t.roots

/-- A call for a route makes its registration, and changes nothing when it makes none. -/
theorem toOption_add (t : RouteTable η) (view : View) (method : Option String) (path : String)
    (handler : Candidate η) :
    (t.add view method path handler).toOption
      = (Registration.of? view method path handler).map
          fun r => t.insert r.method r.tokens r.handler := by
  cases handler with
  | datum value => rfl
  | function h =>
    simp only [add, Registration.of?]
    cases Method.ofToken method with
    | error e => rfl
    | ok m => cases tokens view path <;> rfl

theorem add_eq_ok_iff {t t' : RouteTable η} {view : View} {method : Option String} {path : String}
    {handler : Candidate η} : t.add view method path handler = .ok t'
      ↔ ∃ r, Registration.of? view method path handler = some r
        ∧ t' = t.insert r.method r.tokens r.handler := by
  have hadd := t.toOption_add view method path handler
  cases ht : t.add view method path handler with
  | error e =>
    rw [ht] at hadd
    simp [Option.map_eq_none_iff.mp hadd.symm]
  | ok t₁ =>
    rw [ht] at hadd
    obtain ⟨r, hr, rfl⟩ := Option.map_eq_some_iff.mp hadd.symm
    simp [hr, eq_comm]

end RouteTable

/-- A table holds a list of routes: the tree of every method is that of its registrations, and the
views and what answers when nothing matches are the same. -/
structure Holds (s : Mounts η) (l : RouteList η) : Prop where
  views : s.views = l.views
  notFound : s.table.notFound = l.notFound
  roots : ∀ m, s.table.root? m
    = Route.Node.ofEntries? ((l.routes.filter (·.method = m)).map (·.dropTo 0))

namespace Holds

variable {s : Mounts η} {l : RouteList η}

theorem new (notFound : η) : Holds (Mounts.new notFound) (RouteList.new notFound) :=
  ⟨rfl, rfl, fun _ => rfl⟩

/-- A registration is added to the tree of its method and to the list. -/
theorem insert (h : Holds s l) (r : Registration η) :
    Holds { s with table := s.table.insert r.method r.tokens r.handler }
      { l with routes := l.routes ++ [r] } where
  views := h.views
  notFound := h.notFound
  roots m := by
    rw [RouteTable.root?_insert, h.roots m, List.filter_append]
    by_cases hm : r.method = m
    · simp [hm, Route.Node.ofEntries?_concat, Registration.dropTo]
    · simp [hm]

theorem setNotFound (h : Holds s l) (handler : η) :
    Holds { s with table := { s.table with notFound := handler } }
      { l with notFound := handler } :=
  ⟨h.views, rfl, h.roots⟩

theorem mount (h : Holds s l) (view : View) :
    Holds { s with views := s.views ++ [view] } { l with views := l.views ++ [view] } :=
  ⟨by rw [h.views], h.notFound, h.roots⟩

/-- A call for a route keeps the invariant, whether it succeeds or fails. -/
theorem add (h : Holds s l) (view : View) (method : Option String) (path : String)
    (handler : Candidate η) :
    Holds (s.commit (s.table.add view method path handler))
      { l with routes := l.routes ++ (Registration.of? view method path handler).toList } := by
  have hadd := RouteTable.toOption_add s.table view method path handler
  cases hr : Registration.of? view method path handler with
  | none =>
    cases ht : s.table.add view method path handler with
    | error e => simpa [Mounts.commit] using h
    | ok t => simp [hr, ht, Except.toOption] at hadd
  | some r =>
    cases ht : s.table.add view method path handler with
    | error e => simp [hr, ht, Except.toOption] at hadd
    | ok t =>
      obtain rfl : t = s.table.insert r.method r.tokens r.handler := by
        simpa [hr, ht, Except.toOption] using hadd
      exact h.insert r

/-- **Every call keeps the invariant.** -/
theorem call (h : Holds s l) (c : RouterCall η) : Holds (s.call c) (l.call c) := by
  cases c with
  | mount i path =>
    cases hv : l.views[i]? with
    | none => simpa [Mounts.call, RouteList.call, h.views, hv] using h
    | some view =>
      simpa [Mounts.call, RouteList.call, h.views, hv] using h.mount (view.mount path)
  | add i method path handler =>
    simp only [Mounts.call, RouteList.call, h.views]
    cases l.views[i]? with
    | none => exact h
    | some view => exact h.add view method path handler
  | setNotFound i handler =>
    simp only [Mounts.call, RouteList.call, h.views]
    cases l.views[i]? with
    | none => exact h
    | some view =>
      cases handler with
      | datum value => exact h
      | function f => exact h.setNotFound f

/-- The invariant holds after every sequence of calls. -/
theorem run (h : Holds s l) (calls : List (RouterCall η)) : Holds (s.run calls) (l.run calls) := by
  induction calls generalizing s l with
  | nil => exact h
  | cons c calls ih => exact ih (h.call c)

/-- Requests take the route that the list gives. -/
theorem resolve_eq (h : Holds s l) (method : Method) (target : String) :
    s.table.resolve method target = l.resolve method target := by
  simp only [RouteTable.resolve, RouteList.resolve, h.roots method, Route.Node.ofEntries?,
    List.map_eq_nil_iff]
  by_cases hr : l.routes.filter (·.method = method) = []
  · simp [hr, RouteList.follow_eq_none]
  · rw [if_neg hr]
    exact RouteList.follow_ofEntries _ _ _ _ fun r _ => Nat.zero_le _

theorem handle_eq {ω : Type} {s : Mounts (Handler ω)} {l : RouteList (Handler ω)}
    (h : Holds s l) : Router.handle s.table = l.handle := by
  funext request
  cases hr : l.resolve request.method request.target with
  | none => simp [Router.handle, RouteList.handle, h.resolve_eq, h.notFound, hr]
  | some route => simp [Router.handle, RouteList.handle, h.resolve_eq, hr]

end Holds

/-! ## Dispatch -/

/-- The tokens of a template come after the segments of the view, which are texts. -/
theorem RouteTable.tokens_eq (view : View) (path : String) :
    tokens view path
      = ((Path.segments path).mapM Token.ofSegment).map (view.map .literal ++ ·) := by
  rw [tokens]
  cases (Path.segments path).mapM Token.ofSegment <;> rfl

/-- **Dispatch refines a flat list of registrations.** After any calls on a new router and its
views, every view answers every request as the list of the same calls does. What is registered in
either has the segments of the view as texts, and after them the tokens of the template, one for
each of its segments. -/
theorem handle?_run {ω : Type} (calls : List (RouterCall (Handler ω))) (view : Nat) :
    ((Mounts.new Router.new.notFound).run calls).handle? view
        = ((RouteList.new Router.new.notFound).run calls).handle? view
      ∧ ∀ (through : View) (path : String), RouteTable.tokens through path
        = ((Path.segments path).mapM Token.ofSegment).map (through.map .literal ++ ·) := by
  have h := (Holds.new Router.new.notFound).run calls
  refine ⟨?_, RouteTable.tokens_eq⟩
  rw [Mounts.handle?, RouteList.handle?, h.views, h.handle_eq]

end HttpKit
