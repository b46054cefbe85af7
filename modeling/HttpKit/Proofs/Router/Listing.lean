import HttpKit.Proofs.Router.Mounting
import HttpKit.Proofs.Router.Places

/-!
# The listing and dispatch

A listed template with values filled in for its variables is a path that leads to the handler of the
entry, and every path that leads anywhere is of this kind (`Holds.resolve_eq_some_iff`). The values
have to fit: a text that is registered beside a variable would be taken before it. There are values
that fit for every entry (`RouteList.exists_fits`), so nothing that is listed is out of reach.

`describes_run` puts this together with what is listed. Templates that are too deep are reached like
all others, but where one is registered the table cannot be listed at all
(`not_listed_deepText`).
-/

namespace HttpKit

variable {η : Type}

/-! ## Templates with their variables filled in -/

namespace Route

/-- The segments of a template with values for its variables, by their places. -/
def fill (values : Nat → String) (tokens : List Token) : List String :=
  tokens.mapIdx fun place token => token.text?.getD (values place)

/-- Values from a first one on. -/
def valuesFrom (first : String) (values : Nat → String) : Nat → String
  | 0 => first
  | place + 1 => values place

/-- The variables of a template with their values, in order. -/
def bindings : (Nat → String) → List Token → List (String × String)
  | _, [] => []
  | values, .literal _ :: rest => bindings (fun place => values (place + 1)) rest
  | values, .capture name :: rest =>
    (name, values 0) :: bindings (fun place => values (place + 1)) rest

theorem fill_cons (values : Nat → String) (token : Token) (rest : List Token) :
    fill values (token :: rest)
      = token.text?.getD (values 0) :: fill (fun place => values (place + 1)) rest :=
  List.mapIdx_cons

theorem getElem?_fill (values : Nat → String) (tokens : List Token) (place : Nat) :
    (fill values tokens)[place]? = tokens[place]?.map (·.text?.getD (values place)) :=
  List.getElem?_mapIdx

theorem mem_of_mem_bindings {name value : String} : ∀ {values : Nat → String}
    {tokens : List Token}, (name, value) ∈ bindings values tokens → .capture name ∈ tokens
  | _, [], h => by simp [bindings] at h
  | values, .literal _ :: rest, h => by
    rw [bindings] at h
    exact List.mem_cons_of_mem _ (mem_of_mem_bindings h)
  | values, .capture other :: rest, h => by
    rw [bindings] at h
    rcases List.mem_cons.mp h with h | h
    · cases h
      exact List.mem_cons_self
    · exact List.mem_cons_of_mem _ (mem_of_mem_bindings h)

/-- **The value of a variable is found under its name,** the last one where a name repeats. -/
theorem get?_bindings {name : String} : ∀ {tokens : List Token} {values : Nat → String}
    {place : Nat}, tokens[place]? = some (.capture name) →
    (∀ later, place < later → tokens[later]? ≠ some (.capture name)) →
    Assoc.get? name (Assoc.ofList (bindings values tokens)) = some (values place) := by
  intro tokens values place h hlast
  rw [Assoc.get?_ofList]
  induction tokens generalizing values place with
  | nil => simp at h
  | cons token rest ih =>
    cases place with
    | zero =>
      obtain rfl : token = .capture name := by simpa using h
      have hnone : (bindings (fun place => values (place + 1)) rest).filter (·.1 = name) = [] := by
        rw [List.filter_eq_nil_iff]
        rintro ⟨other, value⟩ hmem hname
        obtain rfl : other = name := by simpa using hname
        obtain ⟨later, hlater⟩ := List.mem_iff_getElem?.mp (mem_of_mem_bindings hmem)
        exact hlast (later + 1) (Nat.succ_pos _) (by simpa using hlater)
      simp [bindings, hnone]
    | succ place =>
      have ih := @ih (fun place => values (place + 1)) place (by simpa using h)
        fun later hlater => by simpa using hlast (later + 1) (by omega)
      cases token with
      | literal text => exact ih
      | capture other =>
        -- What is written under the name further on hides this value.
        obtain ⟨binding, hbinding, hvalue⟩ := Option.map_eq_some_iff.mp ih
        rw [bindings, List.filter_cons]
        split
        · rw [List.getLast?_cons, hbinding]
          simpa using hvalue
        · exact ih

end Route

/-! ## Values that fit -/

namespace RouteList

variable {l : RouteList η}

/-- Whether no value is registered as a text beside the variable that it is filled in for. -/
def Free (l : RouteList η) (method : Method) (before after : List (Option String))
    (values : Nat → String) : Prop :=
  ∀ place, after[place]? = some none →
    l.through (method, before ++ after.take place ++ [some (values place)]) = []

theorem free_cons {method : Method} {before after : List (Option String)} {token : Option String}
    {values : Nat → String} : l.Free method before (token :: after) values
      ↔ (token = none → l.through (method, before ++ [some (values 0)]) = [])
        ∧ l.Free method (before ++ [token]) after fun place => values (place + 1) := by
  constructor
  · intro h
    refine ⟨fun htoken => ?_, fun place hplace => ?_⟩
    · simpa using h 0 (by simp [htoken])
    · simpa using h (place + 1) (by simpa using hplace)
  · rintro ⟨hfirst, hrest⟩ place hplace
    cases place with
    | zero => simpa using hfirst (by simpa using hplace)
    | succ place => simpa using hrest place (by simpa using hplace)

/-- Whether values can be filled in for the variables of a template: they fit between slashes, none
is registered beside its variable, and the path does not end with an empty one. -/
structure Fits (l : RouteList η) (method : Method) (tokens : List Token)
    (values : Nat → String) : Prop where
  chars : ∀ place name, tokens[place]? = some (.capture name) →
    '/' ∉ (values place).toList ∧ '?' ∉ (values place).toList
  free : l.Free method [] (Route.shape tokens) values
  last : ∀ place name, tokens[place]? = some (.capture name) → place + 1 = tokens.length →
    values place ≠ ""

/-- With values that fit a template is a path. -/
theorem Fits.isSegments_fill {method : Method} {tokens : List Token} {values : Nat → String}
    (h : l.Fits method tokens values) (htokens : Path.IsSegments (tokens.map Token.segment)) :
    Path.IsSegments (Route.fill values tokens) where
  chars s hs := by
    obtain ⟨place, hplace⟩ := List.mem_iff_getElem?.mp hs
    rw [Route.getElem?_fill] at hplace
    obtain ⟨token, htoken, rfl⟩ := Option.map_eq_some_iff.mp hplace
    cases token with
    | literal text =>
      exact htokens.chars text (List.mem_map_of_mem (List.mem_of_getElem? htoken))
    | capture name => exact h.chars place name htoken
  last := by
    have hlast := htokens.last
    rw [List.getLast?_eq_getElem?, Route.getElem?_fill]
    rw [List.getLast?_map, List.getLast?_eq_getElem?] at hlast
    have hlength : (Route.fill values tokens).length = tokens.length := List.length_mapIdx
    rw [hlength]
    cases htoken : tokens[tokens.length - 1]? with
    | none => simp
    | some token =>
      cases token with
      | literal text => simpa [htoken, Token.segment, Token.text?] using hlast
      | capture name =>
        have hplace := (List.getElem?_eq_some_iff.mp htoken).1
        simpa [Token.text?] using h.last _ name htoken (by omega)

/-- **There are values that fit.** Only texts that are registered somewhere do not. -/
theorem exists_fits (l : RouteList η) (method : Method) (tokens : List Token) :
    ∃ values, l.Fits method tokens values := by
  obtain ⟨value, hfresh, hne, hchars⟩ :=
    Path.exists_fresh (l.routes.flatMap fun r => r.tokens.map Token.segment)
  refine ⟨fun _ => value, fun _ _ _ => hchars, fun place _ => ?_, fun _ _ _ _ => hne⟩
  rw [List.eq_nil_iff_forall_not_mem]
  intro r hr
  obtain ⟨hmem, hthrough⟩ := List.mem_filter.mp hr
  have hvalue := (append_singleton_prefix_iff.mp (of_decide_eq_true hthrough).2).2
  rw [r.shape_getElem?_literal] at hvalue
  have hsegment := List.mem_map_of_mem (f := Token.segment) (List.mem_of_getElem? hvalue)
  exact hfresh (List.mem_flatMap.mpr ⟨r, hmem, hsegment⟩)

/-! ## Following a filled template -/

/-- **A template with values that are free leads to the latest registration at its place.** -/
theorem follow_fill (l : RouteList η) (method : Method) (after : List (Option String)) :
    ∀ (before : List (Option String)) (values : Nat → String) (captured : Captures)
      {r : Registration η}, l.latest? (method, before ++ after) = some r →
    l.Free method before after values →
    follow captured before.length (Route.fill values (l.tokensAfter method before after))
        (l.through (method, before))
      = some ⟨r.handler, (Route.bindings values (l.tokensAfter method before after)).foldl
          (fun acc pair => Assoc.insert pair.1 pair.2 acc) captured⟩ := by
  induction after with
  | nil =>
    intro before values captured r hlatest _
    rw [List.append_nil, latest?] at hlatest
    have hend : follow captured before.length [] (l.through (method, before))
        = some ⟨r.handler, captured⟩ := by
      rw [follow, filter_through_end, hlatest]
      rfl
    exact hend
  | cons token after ih =>
    intro before values captured r hlatest hfree
    obtain ⟨hfirst, hrest⟩ := free_cons.mp hfree
    rw [List.append_cons] at hlatest
    have ih := ih (before ++ [token]) (fun place => values (place + 1))
    rw [List.length_append, List.length_singleton] at ih
    have hthrough : r ∈ l.through (method, before ++ [token]) := mem_through_of_latest? hlatest
    cases token with
    | some text =>
      rw [tokensAfter, Route.fill_cons, Token.text?, Option.getD_some, follow,
        filter_through_literal, if_pos (List.ne_nil_of_mem hthrough)]
      exact ih captured hlatest hrest
    | none =>
      obtain ⟨name, hname⟩ := exists_name? hthrough
      have hlast : (l.through (method, before ++ [none])).getLast?.bind (·.nameAt? before.length)
          = some name := hname
      rw [tokensAfter, Route.fill_cons, Token.text?, Option.getD_none, follow,
        filter_through_literal, hfirst rfl, if_neg (by simp), filter_through_capture, hlast, hname]
      exact ih (Assoc.insert name (values 0) captured) hlatest hrest

/-- **What is followed to a registration is a template with values that are free.** -/
theorem exists_fill_of_follow (l : RouteList η) (method : Method) (segments : List String) :
    ∀ (before : List (Option String)) (captured : Captures) {route : Route.Match η},
    follow captured before.length segments (l.through (method, before)) = some route →
    ∃ after values r, l.latest? (method, before ++ after) = some r
      ∧ r.handler = route.entry ∧ l.Free method before after values
      ∧ segments = Route.fill values (l.tokensAfter method before after) := by
  induction segments with
  | nil =>
    intro before captured route h
    rw [follow, filter_through_end] at h
    obtain ⟨r, hr, rfl⟩ := Option.map_eq_some_iff.mp h
    refine ⟨[], fun _ => "", r, by rwa [List.append_nil], rfl, ?_, rfl⟩
    intro place hplace
    simp at hplace
  | cons segment segments ih =>
    intro before captured route h
    have ih := fun token => ih (before ++ [token])
    simp only [List.length_append, List.length_singleton] at ih
    rw [follow, filter_through_literal, filter_through_capture] at h
    split at h
    · obtain ⟨after, values, r, hlatest, hr, hfree, rfl⟩ := ih (some segment) captured h
      refine ⟨some segment :: after, Route.valuesFrom segment values, r, ?_, hr, ?_, ?_⟩
      · rwa [List.append_cons]
      · exact free_cons.mpr ⟨fun hnone => absurd hnone (by simp), hfree⟩
      · rw [tokensAfter, Route.fill_cons]
        rfl
    · next hliteral =>
      split at h
      · obtain ⟨after, values, r, hlatest, hr, hfree, rfl⟩ := ih none _ h
        refine ⟨none :: after, Route.valuesFrom segment values, r, ?_, hr, ?_, ?_⟩
        · rwa [List.append_cons]
        · exact free_cons.mpr ⟨fun _ => not_not.mp hliteral, hfree⟩
        · rw [tokensAfter, Route.fill_cons]
          rfl
      · cases h

/-- Values that make a path of a template fit if they are free. -/
theorem fits_of_isSegments {method : Method} {tokens : List Token} {values : Nat → String}
    (hfree : l.Free method [] (Route.shape tokens) values)
    (h : Path.IsSegments (Route.fill values tokens)) : l.Fits method tokens values := by
  have hvalue : ∀ place name, tokens[place]? = some (.capture name) →
      (Route.fill values tokens)[place]? = some (values place) := by
    intro place name htoken
    rw [Route.getElem?_fill, htoken]
    rfl
  refine ⟨fun place name htoken => ?_, hfree, fun place name htoken hlast => ?_⟩
  · exact h.chars _ (List.mem_of_getElem? (hvalue place name htoken))
  · have hlength : (Route.fill values tokens).length = tokens.length := List.length_mapIdx
    have hne := h.last
    rw [List.getLast?_eq_getElem?, hlength, ← hlast, Nat.add_sub_cancel,
      hvalue place name htoken] at hne
    simpa using hne

/-- The segments that are listed at a place make a path. -/
theorem Written.isSegments_tokensAfter (h : l.Written) {place : Place} {r : Registration η}
    (hlatest : l.latest? place = some r) :
    Path.IsSegments ((l.tokensAfter place.1 [] place.2).map Token.segment) where
  chars s hs := by
    obtain ⟨token, htoken, rfl⟩ := List.mem_map.mp hs
    obtain ⟨r', hr', hmem⟩ := mem_of_mem_tokensAfter hlatest htoken
    exact (h.routes r' hr').chars _ (List.mem_map_of_mem hmem)
  last := by
    obtain ⟨hr, hplace⟩ := mem_of_latest? hlatest
    have hshape : Route.shape (l.tokensAfter place.1 [] place.2) = Route.shape r.tokens := by
      rw [shape_tokensAfter, ← hplace]
      rfl
    have hlasts := congrArg List.getLast? hshape
    rw [Route.shape, Route.shape, List.getLast?_map, List.getLast?_map] at hlasts
    rw [List.getLast?_map]
    cases hlast : (l.tokensAfter place.1 [] place.2).getLast? with
    | none => simp
    | some token =>
      cases token with
      | literal text =>
        -- The last text is that of the registration, where it is not empty.
        rw [hlast] at hlasts
        obtain ⟨last, hlast', htext⟩ := Option.map_eq_some_iff.mp hlasts.symm
        obtain rfl : last = .literal text := by
          cases last <;> simp_all [Token.text?]
        have hne := (h.routes r hr).last
        rw [List.getLast?_map, hlast'] at hne
        exact hne
      | capture name => simp [Token.segment]

end RouteList

/-! ## Listed templates -/

namespace Holds

variable {s : Mounts η} {l : RouteList η}

theorem isSegments_of_mem_entries (h : Holds s l) (htidy : s.table.Tidy) (hwritten : l.Written)
    {e : Method × List Token × η} (he : e ∈ s.table.entries) :
    Path.IsSegments (e.2.1.map Token.segment) := by
  obtain ⟨method, tokens, handler⟩ := e
  obtain ⟨r, hlatest, _, htokens⟩ := (h.mem_entries htidy).mp he
  have hsegments := hwritten.isSegments_tokensAfter hlatest
  rwa [← htokens] at hsegments

/-- **A path leads to what is listed, and to nothing else.** It is a listed template with values for
its variables that fit, and leads to the handler that is listed with it. -/
theorem resolve_eq_some_iff (h : Holds s l) (htidy : s.table.Tidy) {method : Method}
    {target : String} {route : Route.Match η} : s.table.resolve method target = some route
      ↔ ∃ e ∈ s.table.entries, ∃ values, e.1 = method ∧ l.Fits method e.2.1 values
        ∧ Path.segments target = Route.fill values e.2.1
        ∧ route = ⟨e.2.2, Assoc.ofList (Route.bindings values e.2.1)⟩ := by
  rw [h.resolve_eq, RouteList.resolve, ← l.through_nil]
  constructor
  · intro hfollow
    obtain ⟨after, values, r, hlatest, _, hfree, hsegments⟩ :=
      l.exists_fill_of_follow method (Path.segments target) [] [] hfollow
    rw [List.nil_append] at hlatest
    have he : l.entryAt? (method, after)
        = some (method, l.tokensAfter method [] after, r.handler) :=
      Option.map_eq_some_iff.mpr ⟨r, hlatest, rfl⟩
    have hroute := l.follow_fill method after [] values [] hlatest hfree
    rw [← hsegments] at hroute
    refine ⟨_, (h.mem_of_entryAt? htidy he).1, values, rfl, ?_, hsegments, ?_⟩
    · refine RouteList.fits_of_isSegments ?_ (hsegments ▸ Path.isSegments_segments target)
      rwa [RouteList.shape_tokensAfter]
    · exact Option.some.inj (hfollow.symm.trans hroute)
  · rintro ⟨⟨_, tokens, handler⟩, he, values, rfl, hfits, hsegments, rfl⟩
    obtain ⟨r, hlatest, rfl, htokens⟩ := (h.mem_entries htidy).mp he
    have hroute := l.follow_fill _ (Route.shape tokens) [] values [] hlatest hfits.free
    rw [← htokens] at hroute
    rw [hsegments]
    exact hroute

/-- A listed template with values that fit is a path to the handler of its entry. -/
theorem resolve_fill (h : Holds s l) (htidy : s.table.Tidy) (hwritten : l.Written)
    {e : Method × List Token × η} (he : e ∈ s.table.entries) {values : Nat → String}
    (hfits : l.Fits e.1 e.2.1 values) :
    s.table.resolve e.1 (Path.ofSegments (Route.fill values e.2.1))
      = some ⟨e.2.2, Assoc.ofList (Route.bindings values e.2.1)⟩ := by
  have hsegments := hfits.isSegments_fill (h.isSegments_of_mem_entries htidy hwritten he)
  exact (h.resolve_eq_some_iff htidy).mpr
    ⟨e, he, values, rfl, hfits, Path.segments_ofSegments hsegments, rfl⟩

end Holds

/-! ## All routes -/

/-- A request that leads to a route is answered by it. -/
theorem Router.handle_of_resolve {ω : Type} {router : Router ω} {request : Request}
    {route : Route.Match (Handler ω)}
    (h : router.resolve request.method request.target = some route) :
    router.handle request = route.entry (request.withCaptures route.captured) := by
  rw [Router.handle, h]

/-- A value that was captured under a name is seen by the handler. -/
theorem Request.captured?_withCaptures {captured : Captures} {name value : String}
    (h : Assoc.get? name captured = some value) (request : Request) :
    (request.withCaptures captured).captured? name = some value := by
  unfold withCaptures
  split
  · next hempty =>
    rw [List.isEmpty_iff.mp hempty] at h
    cases h
  · exact h

namespace RouteList

/-- What is listed at a place: its template under present names. -/
def template (l : RouteList η) (place : Place) : Method × String :=
  (place.1, Path.ofSegments ((l.tokensAfter place.1 [] place.2).map Token.segment))

/-- Whether a router lists and calls what was registered. -/
structure Describes {ω : Type} (l : RouteList (Handler ω)) (router : Router ω) : Prop where
  /-- Every place where something was registered is listed once, under present names. -/
  listed : router.templates.Perm ((l.routes.map Registration.place).dedup.map l.template)
  /-- An entry has the present names of its variables and the handler registered last. -/
  entries : ∀ e ∈ router.entries, l.entryAt? (entryPlace e) = some e
  /-- The listing succeeds if nothing that was registered is too deep, and fails otherwise. -/
  listable : ∀ depth, if ∀ r ∈ l.routes, r.tokens.length ≤ depth
    then router.routes depth = .ok router.templates else router.routes depth = .error ⟨⟩
  /-- A template with values that fit is answered by the handler listed with it, which finds them
  under the names of the variables, the last one where a name repeats. -/
  calls : ∀ e ∈ router.entries, ∀ values, l.Fits e.1 e.2.1 values → ∀ request : Request,
    request.method = e.1 → request.target = Path.ofSegments (Route.fill values e.2.1) →
    ∃ seen : Request, router.handle request = e.2.2 seen
      ∧ (∃ captured, seen = request.withCaptures captured)
      ∧ ∀ place name, e.2.1[place]? = some (.capture name) →
        (∀ later, place < later → e.2.1[later]? ≠ some (.capture name)) →
        seen.captured? name = some (values place)
  /-- There are values that fit. -/
  reachable : ∀ e ∈ router.entries, ∃ values, l.Fits e.1 e.2.1 values
  /-- A request that is not answered as not found is a listed template with values that fit, and is
  answered by the handler listed with it. -/
  called : ∀ request : Request, router.handle request = router.notFound request
    ∨ ∃ e ∈ router.entries, ∃ values captured, e.1 = request.method
      ∧ l.Fits e.1 e.2.1 values ∧ Path.segments request.target = Route.fill values e.2.1
      ∧ router.handle request = e.2.2 (request.withCaptures captured)

end RouteList

namespace Holds

variable {ω : Type} {s : Mounts (Handler ω)} {l : RouteList (Handler ω)}

theorem templates_perm (h : Holds s l) (htidy : s.table.Tidy) :
    s.table.templates.Perm ((l.routes.map Registration.place).dedup.map l.template) := by
  have htemplate : s.table.templates = (s.table.entries.map entryPlace).map l.template := by
    rw [RouteTable.templates, List.map_map]
    refine List.map_congr_left fun e he => ?_
    obtain ⟨method, tokens, handler⟩ := e
    obtain ⟨_, _, _, htokens⟩ := (h.mem_entries htidy).mp he
    rw [Function.comp_apply, RouteList.template, entryPlace, ← htokens]
  rw [htemplate]
  exact (h.perm_places htidy).map l.template

theorem describes (h : Holds s l) (htidy : s.table.Tidy) (hwritten : l.Written) :
    l.Describes s.table where
  listed := h.templates_perm htidy
  entries e he := h.entryAt?_of_mem htidy he
  listable := h.routes_eq htidy
  calls e he values hfits request hmethod htarget := by
    have hresolve := h.resolve_fill htidy hwritten he hfits
    rw [← hmethod, ← htarget] at hresolve
    refine ⟨_, Router.handle_of_resolve hresolve, ⟨_, rfl⟩, fun place name hplace hlast => ?_⟩
    exact Request.captured?_withCaptures (Route.get?_bindings hplace hlast) request
  reachable e _ := l.exists_fits e.1 e.2.1
  called request := by
    cases hresolve : s.table.resolve request.method request.target with
    | none =>
      left
      rw [Router.handle, hresolve]
    | some route =>
      right
      obtain ⟨e, he, values, hmethod, hfits, hsegments, rfl⟩ :=
        (h.resolve_eq_some_iff htidy).mp hresolve
      rw [← hmethod] at hfits
      exact ⟨e, he, values, _, hmethod, hfits, hsegments, Router.handle_of_resolve hresolve⟩

end Holds

/-- **The listing and dispatch describe the same routes.** After any calls on a new router and its
views, what is listed is what was registered, what is listed is called, and nothing else is. -/
theorem describes_run {ω : Type} (notFound : Handler ω) (calls : List (RouterCall (Handler ω))) :
    ((RouteList.new notFound).run calls).Describes ((Mounts.new notFound).run calls).table := by
  have h := (Holds.new notFound).run calls
  have htidy := Mounts.tidy_run (s := Mounts.new notFound) (RouteTable.tidy_empty notFound) calls
  exact h.describes htidy ((RouteList.written_new notFound).run calls)

/-! ## Templates that are too deep -/

namespace RouteTable

/-- A table of one route is not listed where there is no room for its segments. -/
theorem routes_insert_empty_of_lt {ts : List Token} {depth : Nat} (h : depth < ts.length)
    (notFound : η) (m : Method) (handler : η) :
    ((empty notFound).insert m ts handler).routes depth = .error ⟨⟩ := by
  have hdeep : ((empty notFound).insert m ts handler).isListable depth ≠ true := by
    rw [isListable, entries_insert_empty]
    simpa using h
  rw [routes, if_neg hdeep]

/-- A template that repeats one segment is read at any length. -/
theorem tokens_replicate {token : Token} (hread : Token.ofSegment token.segment = .ok token)
    (hsegment : Path.IsSegments [token.segment]) (view : View) (n : Nat) :
    tokens view (Path.ofSegments ((List.replicate n token).map Token.segment))
      = .ok (view.map .literal ++ List.replicate n token) := by
  have hsegments : Path.IsSegments ((List.replicate n token).map Token.segment) := by
    rw [List.map_replicate]
    refine ⟨fun s hs => ?_, ?_⟩
    · exact List.eq_of_mem_replicate hs ▸ hsegment.chars _ (List.mem_singleton_self _)
    · rw [List.getLast?_replicate]
      split
      · simp
      · exact hsegment.last
  refine tokens_eq_ok_iff.mpr ⟨_, ?_, rfl⟩
  rw [Path.segments_ofSegments hsegments]
  exact Token.mapM_segment fun t' ht' => List.eq_of_mem_replicate ht' ▸ hread

/-- A template that repeats one segment is registered at any length. -/
theorem add_replicate {token : Token} (hread : Token.ofSegment token.segment = .ok token)
    (hsegment : Path.IsSegments [token.segment]) (t : RouteTable η) (n : Nat) (handler : η) :
    t.add .root (some "GET") (Path.ofSegments ((List.replicate n token).map Token.segment))
      (.function handler) = .ok (t.insert .get (List.replicate n token) handler) :=
  add_of_tokens rfl (tokens_replicate hread hsegment .root n) t handler

end RouteTable

/-- A route that is too deep is registered, and then the table cannot be listed. -/
theorem not_listed_deepText :
    let tokens := List.replicate 1500 (Token.literal "a")
    ∃ table : RouteTable Unit, (RouteTable.empty ()).add .root (some "GET")
        (Path.ofSegments (tokens.map Token.segment)) (.function ()) = .ok table
      ∧ table.entries = [(.get, tokens, ())]
      ∧ ∀ depth < 1500, table.routes depth = .error ⟨⟩ := by
  intro tokens
  have hsegment : Path.IsSegments [(Token.literal "a").segment] := ⟨by decide, by decide⟩
  refine ⟨_, RouteTable.add_replicate rfl hsegment _ _ (), ?_, fun depth hdepth => ?_⟩
  · exact RouteTable.entries_insert_empty () .get tokens ()
  · exact RouteTable.routes_insert_empty_of_lt (by rwa [List.length_replicate]) () .get ()

end HttpKit
