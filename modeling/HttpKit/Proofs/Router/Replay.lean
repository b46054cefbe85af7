import HttpKit.Proofs.Method
import HttpKit.Proofs.Router.Order

/-!
# Registering what is listed

A table that is configured through the view of the whole of it lists all that there is to know of
it: registered on an empty table in the order of the listing, its routes make the same table again,
with the methods, the children for texts and the names of variables in their places (`replay_run`).
Two things come together in this. A listed template is read back as the tokens that it was written
from (`registration?_ofEntry`), and a tidy table holds nothing that is not listed
(`Tidy.insertAll_entries`).
-/

namespace HttpKit

variable {η : Type}

/-- An entry as a registration. -/
def Registration.ofEntry (e : Method × List Token × η) : Registration η := ⟨e.1, e.2.1, e.2.2⟩

/-- What is given to register again what is listed, with a handler. -/
def Addition.ofListed (listed : Method × String) (handler : η) : Addition η :=
  ⟨.root, some listed.1.name, listed.2, .function handler⟩

/-- What is given to register an entry again. -/
def Addition.ofEntry (e : Method × List Token × η) : Addition η :=
  .ofListed (e.1, Path.ofSegments (e.2.1.map Token.segment)) e.2.2

namespace RouteTable

/-- The handlers in the order of the listing. -/
def handlers (t : RouteTable η) : List η := t.entries.map (·.2.2)

/-- Registers on an empty table the templates of another one, in their order, with its handlers. -/
def replay (t : RouteTable η) (notFound : η) : Except RegistrationError (RouteTable η) :=
  (empty notFound).addAll (t.templates.zipWith Addition.ofListed t.handlers)

theorem zipWith_ofListed (t : RouteTable η) :
    t.templates.zipWith Addition.ofListed t.handlers = t.entries.map Addition.ofEntry := by
  rw [templates, handlers, List.zipWith_map, List.zipWith_self]
  rfl

/-! ## Entries inserted in their order -/

/-- A change below a method that the first trees do not have is one of the last. -/
theorem updateRoot_append {method : Method} {f : Route.Node η → Route.Node η}
    {more : List (Method × Route.Node η)} : ∀ {roots : List (Method × Route.Node η)},
    method ∉ roots.map Prod.fst →
    updateRoot method f (roots ++ more) = roots ++ updateRoot method f more
  | [], _ => rfl
  | (m, node) :: rest, h => by
    rw [List.map_cons, List.mem_cons, not_or] at h
    obtain ⟨hm, hrest⟩ := h
    rw [List.cons_append, updateRoot, if_neg (Ne.symm hm), updateRoot_append hrest]
    rfl

/-- Entries of the last tree go into it. -/
theorem insertAll_last {method : Method} {roots : List (Method × Route.Node η)} {notFound : η}
    (h : method ∉ roots.map Prod.fst) (xs : List (List Token × η)) : ∀ (n : Route.Node η),
    insertAll ⟨roots ++ [(method, n)], notFound⟩ (xs.map fun x => ⟨method, x.1, x.2⟩)
      = ⟨roots ++ [(method, n.insertAll xs)], notFound⟩ := by
  induction xs with
  | nil => intro n; rfl
  | cons x xs ih =>
    intro n
    rw [List.map_cons, insertAll_cons, RouteTable.insert, updateRoot_append h, updateRoot,
      if_pos rfl]
    exact ih _

/-- The first entry of a method makes a tree for it after the others. -/
theorem insertAll_of_fresh {method : Method} {roots : List (Method × Route.Node η)} {notFound : η}
    (h : method ∉ roots.map Prod.fst) {xs : List (List Token × η)} (hxs : xs ≠ []) :
    insertAll ⟨roots, notFound⟩ (xs.map fun x => ⟨method, x.1, x.2⟩)
      = ⟨roots ++ [(method, Route.Node.empty.insertAll xs)], notFound⟩ := by
  obtain ⟨x, xs, rfl⟩ := List.exists_cons_of_ne_nil hxs
  have hfirst : updateRoot method (Route.Node.insert x.2 x.1) roots
      = roots ++ [(method, Route.Node.empty.insert x.2 x.1)] := by
    have hlast : updateRoot method (Route.Node.insert x.2 x.1) (roots ++ [])
        = roots ++ updateRoot method (Route.Node.insert x.2 x.1) [] := updateRoot_append h
    rwa [List.append_nil] at hlast
  rw [List.map_cons, insertAll_cons, RouteTable.insert, hfirst]
  exact insertAll_last h xs _

/-- Tidy trees come after those that are there, if they are for other methods. -/
theorem insertAll_roots {notFound : η} (roots : List (Method × Route.Node η)) :
    ∀ (before : List (Method × Route.Node η)), ((before ++ roots).map Prod.fst).Nodup →
    (∀ root ∈ roots, root.2.Tidy ∧ root.2.list ≠ []) →
    insertAll ⟨before, notFound⟩
        (roots.flatMap fun root => root.2.list.map fun x => ⟨root.1, x.1, x.2⟩)
      = ⟨before ++ roots, notFound⟩ := by
  induction roots with
  | nil =>
    intro before _ _
    rw [List.append_nil]
    rfl
  | cons root roots ih =>
    intro before hnodup htrees
    obtain ⟨htidy, hlist⟩ := htrees root List.mem_cons_self
    have hfresh : root.1 ∉ before.map Prod.fst := by
      rw [List.map_append, List.nodup_append] at hnodup
      exact fun hmem => hnodup.2.2 _ hmem _ List.mem_cons_self rfl
    rw [List.append_cons] at hnodup
    rw [List.flatMap_cons, insertAll_append, insertAll_of_fresh hfresh hlist, htidy.insertAll_list,
      ih _ hnodup fun r hr => htrees r (List.mem_cons_of_mem _ hr), List.append_assoc]
    rfl

/-- **A tidy table is built by its entries, inserted in the order in which they are listed.** -/
theorem Tidy.insertAll_entries {t : RouteTable η} (h : t.Tidy) (notFound : η) :
    (empty notFound).insertAll (t.entries.map Registration.ofEntry) = { t with notFound } := by
  have hentries : t.entries.map Registration.ofEntry
      = t.roots.flatMap fun root => root.2.list.map fun x => ⟨root.1, x.1, x.2⟩ := by
    simp only [entries, List.map_flatMap, List.map_map]
    rfl
  rw [hentries]
  exact insertAll_roots t.roots [] h.methods h.trees

end RouteTable

/-! ## Templates that are read back -/

/-- The tokens of a template are read back. -/
theorem RouteTable.ofSegment_segment_of_tokens {path : String} {ts : List Token}
    (h : tokens .root path = .ok ts) : ∀ token ∈ ts, Token.ofSegment token.segment = .ok token := by
  obtain ⟨more, hread, rfl⟩ := tokens_eq_ok_iff.mp h
  exact Token.ofSegment_segment_of_mapM hread

/-- **An entry that is read back is the registration that it came from.** -/
theorem registration?_ofEntry {e : Method × List Token × η}
    (hsegments : Path.IsSegments (e.2.1.map Token.segment))
    (hread : ∀ token ∈ e.2.1, Token.ofSegment token.segment = .ok token) :
    (Addition.ofEntry e).registration? = some (Registration.ofEntry e) := by
  have htokens : RouteTable.tokens .root (Path.ofSegments (e.2.1.map Token.segment))
      = .ok e.2.1 := by
    rw [RouteTable.tokens_root_ofSegments hsegments, Token.mapM_segment hread]
  simp only [Addition.registration?, Addition.ofEntry, Addition.ofListed, Registration.of?,
    Method.ofToken_name, htokens]
  rfl

namespace Holds

variable {s : Mounts η} {l : RouteList η}

theorem ofSegment_segment_of_mem_entries (h : Holds s l) (htidy : s.table.Tidy)
    (hread : ∀ r ∈ l.routes, ∀ token ∈ r.tokens, Token.ofSegment token.segment = .ok token)
    {e : Method × List Token × η} (he : e ∈ s.table.entries) :
    ∀ token ∈ e.2.1, Token.ofSegment token.segment = .ok token := by
  intro token htoken
  obtain ⟨method, tokens, handler⟩ := e
  obtain ⟨r, hlatest, _, htokens⟩ := (h.mem_entries htidy).mp he
  rw [htokens] at htoken
  obtain ⟨r', hr', hmem⟩ := RouteList.mem_of_mem_tokensAfter hlatest htoken
  exact hread r' hr' token hmem

/-- **A table whose templates are read back is made again by what it lists.** -/
theorem replay (h : Holds s l) (htidy : s.table.Tidy) (hwritten : l.Written)
    (hread : ∀ r ∈ l.routes, ∀ token ∈ r.tokens, Token.ofSegment token.segment = .ok token)
    (notFound : η) : s.table.replay notFound = .ok { s.table with notFound } := by
  have hagain : ∀ e ∈ s.table.entries,
      (Addition.ofEntry e).registration? = some (Registration.ofEntry e) := fun e he =>
    registration?_ofEntry (h.isSegments_of_mem_entries htidy hwritten he)
      (h.ofSegment_segment_of_mem_entries htidy hread he)
  have hentries : (s.table.entries.map Addition.ofEntry).filterMap Addition.registration?
      = s.table.entries.map Registration.ofEntry := by
    rw [List.filterMap_map, ← List.filterMap_eq_map]
    exact List.filterMap_congr hagain
  rw [RouteTable.replay, RouteTable.zipWith_ofListed]
  refine RouteTable.addAll_eq_ok_iff.mpr ⟨fun a ha => ?_, ?_⟩
  · obtain ⟨e, he, rfl⟩ := List.mem_map.mp ha
    rw [hagain e he]
    rfl
  · rw [hentries, htidy.insertAll_entries]

end Holds

/-! ## Routers that are not mounted -/

namespace RouteList

/-- A call that registers a route through the view of the whole. -/
def addAtRoot (route : Option String × String × Candidate η) : RouterCall η :=
  .add 0 route.1 route.2.1 route.2.2

/-- What is so of a list that grows through the view of the whole only. -/
structure Unmounted (notFound : η) (l : RouteList η) : Prop where
  views : l.views = [.root]
  notFound : l.notFound = notFound
  read : ∀ r ∈ l.routes, ∀ token ∈ r.tokens, Token.ofSegment token.segment = .ok token

variable {l : RouteList η} {notFound : η}

theorem unmounted_new (notFound : η) : (new notFound).Unmounted notFound where
  views := rfl
  notFound := rfl
  read r h := by simp [new] at h

theorem call_addAtRoot (h : l.views = [.root]) (route : Option String × String × Candidate η) :
    l.call (addAtRoot route) = { l with
      routes := l.routes ++ (Registration.of? .root route.1 route.2.1 route.2.2).toList } := by
  simp [addAtRoot, RouteList.call, h]

theorem Unmounted.call (h : l.Unmounted notFound)
    (route : Option String × String × Candidate η) :
    (l.call (addAtRoot route)).Unmounted notFound := by
  rw [call_addAtRoot h.views]
  refine ⟨h.views, h.notFound, fun r hr => ?_⟩
  rcases List.mem_append.mp hr with hr | hr
  · exact h.read r hr
  · have htokens := Registration.tokens_of?_eq (Option.mem_toList.mp hr)
    exact RouteTable.ofSegment_segment_of_tokens htokens

theorem Unmounted.run (h : l.Unmounted notFound)
    (routes : List (Option String × String × Candidate η)) :
    (l.run (routes.map addAtRoot)).Unmounted notFound := by
  induction routes generalizing l with
  | nil => exact h
  | cons route routes ih => exact ih (h.call route)

end RouteList

/-- **Registering what is listed makes the same table.** This is so after any registrations through
the view of the whole, whether they succeed or fail. The listing itself fails where one of them is
too deep. -/
theorem replay_run (notFound : η) (routes : List (Option String × String × Candidate η)) :
    let calls := routes.map RouteList.addAtRoot
    let table := ((Mounts.new notFound).run calls).table
    table.replay notFound = .ok table
      ∧ ∀ depth, if ∀ r ∈ ((RouteList.new notFound).run calls).routes, r.tokens.length ≤ depth
        then table.routes depth = .ok table.templates else table.routes depth = .error ⟨⟩ := by
  intro calls table
  have h := (Holds.new notFound).run calls
  have htidy := Mounts.tidy_run (s := Mounts.new notFound) (RouteTable.tidy_empty notFound) calls
  have hwritten := (RouteList.written_new notFound).run calls
  have hunmounted := (RouteList.unmounted_new notFound).run routes
  have hreplay := h.replay htidy hwritten hunmounted.read notFound
  have hnotFound : table.notFound = notFound := h.notFound.trans hunmounted.notFound
  refine ⟨hreplay.trans ?_, h.routes_eq htidy⟩
  change Except.ok (RouteTable.mk table.roots notFound) = .ok (.mk table.roots table.notFound)
  rw [hnotFound]

/-- The table of a single route. -/
theorem table_run_addAtRoot {notFound : η} {route : Option String × String × Candidate η}
    {t : RouteTable η}
    (h : (RouteTable.empty notFound).add .root route.1 route.2.1 route.2.2 = .ok t) :
    ((Mounts.new notFound).run [RouteList.addAtRoot route]).table = t := by
  simp [Mounts.run, Mounts.call, Mounts.new, RouteList.addAtRoot, h, Mounts.commit]

/-- A template of variables may be too deep as well, and then no listing can be registered again. -/
theorem not_listed_deepVariable :
    let tokens := List.replicate 1500 (Token.capture "v")
    let route := (some "GET", Path.ofSegments (tokens.map Token.segment), Candidate.function ())
    let table := ((Mounts.new ()).run [RouteList.addAtRoot route]).table
    table.entries = [(.get, tokens, ())] ∧ ∀ depth < 1500, table.routes depth = .error ⟨⟩ := by
  intro tokens route table
  have hsegment : Path.IsSegments [(Token.capture "v").segment] := ⟨by decide, by decide⟩
  have htable : table = (RouteTable.empty ()).insert .get tokens () :=
    table_run_addAtRoot (RouteTable.add_replicate rfl hsegment _ _ ())
  rw [htable]
  refine ⟨RouteTable.entries_insert_empty () .get tokens (), fun depth hdepth => ?_⟩
  exact RouteTable.routes_insert_empty_of_lt (by rwa [List.length_replicate]) () .get ()

end HttpKit
