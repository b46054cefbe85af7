import HttpKit.Proofs.Router.Cells
import HttpKit.Proofs.Router.Listing
import Mathlib.Algebra.Order.BigOperators.Group.List
import Mathlib.Algebra.Order.Group.Nat

/-!
# The nodes of a route table

What is so of every cell that a table is kept in (`Store.Sound`), and what follows from it: nothing
is captured under no name or under a name that a variable does not have, every variable is listed,
and every entry is reached by a path with nothing to drop at its end. Calls through views keep a
table to what can be written, because the segments of views and templates are cut from paths and
names that are blank are refused (`Mounts.Written.call`). With that and the cells of the table
(`Mounts.run_shelf`), `sound_run` is an induction on the calls.

The listing is the exception. It fails as a whole where an entry is too deep, and then no tree is
listed at all (`not_listed_deepBelowMount`).
-/

namespace HttpKit

variable {η : Type}

/-! ## Tokens that are inserted -/

/-- A variable of a template has a name that is not blank. -/
theorem Token.isName_of_ofSegment {s name : String} (h : ofSegment s = .ok (.capture name))
    (hs : Path.IsSegment s) : IsName name := by
  have hsegment := segment_of_ofSegment h
  by_cases hbraced : IsBraced s
  · obtain ⟨inner, hne, hinner⟩ := hbraced
    rw [ofSegment_of_inner hne hinner] at h
    split at h
    · cases h
    · next hblank =>
      cases h
      have hmem : ∀ c ∈ inner, c ∈ s.toList := fun c hc => by simp [hinner, hc]
      refine ⟨by simpa using hblank, ?_, ?_⟩ <;> rw [String.toList_ofList]
      · exact fun hc => hs.1 (hmem _ hc)
      · exact fun hc => hs.2 (hmem _ hc)
  · rw [ofSegment_of_not_isBraced hbraced] at h
    cases h

/-- Where the last segment is not empty, the last token is no empty text. -/
theorem Route.last_ne_of_isSegments {ts : List Token}
    (h : Path.IsSegments (ts.map Token.segment)) : (shape ts).getLast?.getD none ≠ some "" := by
  have hlast := h.last
  rw [List.getLast?_map] at hlast
  rw [shape, List.getLast?_map]
  cases hend : ts.getLast? with
  | none => simp
  | some token =>
    cases token with
    | literal text => simpa [hend, Token.segment, Token.text?] using hlast
    | capture name => simp [Token.text?]

namespace RouteTable

/-- **The tokens of a template can be inserted,** whatever view it is seen through. -/
theorem insertable_of_tokens {view : View} {path : String} {ts : List Token}
    (hview : Path.IsSegments view) (h : tokens view path = .ok ts) :
    Route.Insertable none ts := by
  have hsegments : Path.IsSegments (ts.map Token.segment) := by
    rw [map_segment_of_tokens h]
    exact View.isSegments_mount hview path
  obtain ⟨more, hread, rfl⟩ := tokens_eq_ok_iff.mp h
  refine ⟨fun token htoken => ?_, Route.last_ne_of_isSegments hsegments⟩
  have hchars := hsegments.chars _ (List.mem_map_of_mem htoken)
  cases token with
  | literal text => exact hchars
  | capture name =>
    -- Only the template has variables, and they were read from its segments.
    have hmem : .capture name ∈ more := by simpa using htoken
    exact Token.isName_of_ofSegment (Token.ofSegment_segment_of_mapM hread _ hmem) hchars

/-! ## Tables that keep to what can be written -/

/-- Whether every tree of a table keeps to what can be written. -/
def Written (t : RouteTable η) : Prop := ∀ root ∈ t.roots, root.2.Written none

theorem written_empty (notFound : η) : (empty notFound).Written := by simp [Written, empty]

theorem Written.insert {t : RouteTable η} (h : t.Written) (method : Method) {tokens : List Token}
    (htokens : Route.Insertable none tokens) (handler : η) :
    (t.insert method tokens handler).Written := by
  intro root hroot
  rcases mem_updateRoot hroot with hroot | hroot | ⟨before, hbefore, hroot⟩
  · exact h root hroot
  · rw [hroot]
    exact (Route.Node.written_empty none).insert handler tokens htokens
  · rw [hroot]
    exact (h before hbefore).insert handler tokens htokens

end RouteTable

namespace Mounts

/-- Whether views have segments that a path can have, and the table keeps to what can be
written. -/
structure Written (s : Mounts η) : Prop where
  views : ∀ view ∈ s.views, Path.IsSegments view
  table : s.table.Written

theorem written_new (notFound : η) : (new notFound).Written where
  views _ h := List.mem_singleton.mp h ▸ Path.isSegments_nil
  table := RouteTable.written_empty notFound

/-- **Every call keeps to what can be written,** whether it succeeds or fails. -/
theorem Written.call {s : Mounts η} (h : s.Written) (c : RouterCall η) : (s.call c).Written := by
  cases c with
  | mount i path =>
    rw [Mounts.call]
    split
    · next view hview =>
      refine ⟨fun v hv => ?_, h.table⟩
      rcases List.mem_append.mp hv with hv | hv
      · exact h.views v hv
      · rw [List.mem_singleton.mp hv]
        exact View.isSegments_mount (h.views view (List.mem_of_getElem? hview)) path
    · exact h
  | add i method path handler =>
    rw [Mounts.call]
    split
    · next view hview =>
      cases ht : s.table.add view method path handler with
      | error e => exact h
      | ok t =>
        obtain ⟨r, hr, rfl⟩ := RouteTable.add_eq_ok_iff.mp ht
        have htokens := RouteTable.insertable_of_tokens
          (h.views view (List.mem_of_getElem? hview)) (Registration.tokens_of?_eq hr)
        exact ⟨h.views, h.table.insert r.method htokens r.handler⟩
    · exact h
  | setNotFound i handler =>
    rw [Mounts.call]
    split
    · cases handler with
      | datum value => exact h
      | function f => exact ⟨h.views, h.table⟩
    · exact h

theorem Written.run {s : Mounts η} (h : s.Written) (calls : List (RouterCall η)) :
    (s.run calls).Written := by
  induction calls generalizing s with
  | nil => exact h
  | cons c calls ih => exact ih (h.call c)

end Mounts

/-! ## Nodes of a table -/

namespace RouteTable

/-- Whether a node stands at a place of the tree of a method. -/
def HasNode (t : RouteTable η) (method : Method) (place : List (Option String))
    (n : Route.Node η) : Prop :=
  ∃ root, t.root? method = some root ∧ root.at? place = some n

variable {t : RouteTable η}

theorem Tidy.of_root? (h : t.Tidy) {method : Method} {root : Route.Node η}
    (hroot : t.root? method = some root) : root.Tidy ∧ root.list ≠ [] :=
  h.trees _ ((root?_eq_some_iff h).mp hroot)

theorem Written.of_root? (htidy : t.Tidy) (h : t.Written) {method : Method}
    {root : Route.Node η} (hroot : t.root? method = some root) : root.Written none :=
  h _ ((root?_eq_some_iff htidy).mp hroot)

theorem HasNode.tidy (h : t.Tidy) {method : Method} {place : List (Option String)}
    {n : Route.Node η} (hn : t.HasNode method place n) : n.list ≠ [] ∧ n.Tidy := by
  obtain ⟨root, hroot, hat⟩ := hn
  obtain ⟨htidy, hlist⟩ := h.of_root? hroot
  exact htidy.at? hlist hat

/-- What a node lists is among the entries of the table. -/
theorem HasNode.mem_entries (h : t.Tidy) {method : Method} {place : List (Option String)}
    {n : Route.Node η} (hn : t.HasNode method place n) {tokens : List Token} {entry : η}
    (hmem : (tokens, entry) ∈ n.list) :
    ∃ before, Route.shape before = place ∧ (method, before ++ tokens, entry) ∈ t.entries := by
  obtain ⟨root, hroot, hat⟩ := hn
  obtain ⟨before, hbefore, hlisted⟩ := Route.Node.mem_list_of_at? (h.of_root? hroot).1 hat hmem
  exact ⟨before, hbefore, (RouteTable.mem_entries h).mpr ⟨root, hroot, hlisted⟩⟩

/-- An entry of the table is that of a node. -/
theorem exists_hasNode_of_mem_entries (h : t.Tidy) {e : Method × List Token × η}
    (he : e ∈ t.entries) :
    ∃ n, t.HasNode e.1 (Route.shape e.2.1) n ∧ n.entry = some e.2.2 := by
  obtain ⟨root, hroot, hmem⟩ := (RouteTable.mem_entries h).mp he
  obtain ⟨n, hat, hentry⟩ := Route.Node.exists_at?_of_mem_list (h.of_root? hroot).1 hmem
  exact ⟨n, ⟨root, hroot, hat⟩, hentry⟩

theorem mem_templates_of_mem_entries {method : Method} {tokens : List Token} {entry : η}
    (h : (method, tokens, entry) ∈ t.entries) :
    (method, Path.ofSegments (tokens.map Token.segment)) ∈ t.templates :=
  List.mem_map.mpr ⟨_, h, rfl⟩

/-- Every tree has a template. -/
theorem Tidy.exists_mem_templates (h : t.Tidy) {method : Method} {root : Route.Node η}
    (hroot : t.root? method = some root) : ∃ template, (method, template) ∈ t.templates := by
  obtain ⟨⟨tokens, entry⟩, hmem⟩ := List.exists_mem_of_ne_nil _ (h.of_root? hroot).2
  have he := (RouteTable.mem_entries h).mpr ⟨root, hroot, hmem⟩
  exact ⟨_, mem_templates_of_mem_entries he⟩

/-- Every variable is in a template, under its name and at its place. -/
theorem HasNode.exists_mem_templates (h : t.Tidy) {method : Method}
    {place : List (Option String)} {n : Route.Node η} (hn : t.HasNode method place n)
    {name : String} (hname : n.slot.name? = some name) :
    ∃ before after, Route.shape before = place ∧ (method,
      Path.ofSegments ((before ++ Token.capture name :: after).map Token.segment))
        ∈ t.templates := by
  obtain ⟨child, hslot⟩ := Route.Slot.exists_eq_of_name? hname
  obtain ⟨-, hnode⟩ := hn.tidy h
  have hchild : child.list ≠ [] ∧ child.Tidy :=
    hnode.slot.of_child? (Route.Slot.child?_eq_some_iff.mpr ⟨name, hslot⟩)
  obtain ⟨⟨after, entry⟩, hmem⟩ := List.exists_mem_of_ne_nil _ hchild.1
  have hlisted := (Route.Node.mem_list_capture hnode).mpr ⟨child, hslot, hmem⟩
  obtain ⟨before, hbefore, he⟩ := hn.mem_entries h hlisted
  exact ⟨before, after, hbefore, mem_templates_of_mem_entries he⟩

/-- There is room for every template where there is room for the place of every entry. -/
theorem isListable_iff_hasNode (h : t.Tidy) (depth : Nat) : t.isListable depth = true
    ↔ ∀ method place n, t.HasNode method place n → n.entry.isSome → place.length ≤ depth := by
  rw [isListable, List.all_eq_true]
  constructor
  · intro hall method place n hn hentry
    obtain ⟨entry, hentry⟩ := Option.isSome_iff_exists.mp hentry
    have hlisted := (Route.Node.mem_list_nil (hn.tidy h).2).mpr hentry
    obtain ⟨before, rfl, he⟩ := hn.mem_entries h hlisted
    simpa [Route.shape] using hall _ he
  · intro hall e he
    obtain ⟨n, hn, hentry⟩ := exists_hasNode_of_mem_entries h he
    simpa [Route.shape] using hall _ _ n hn (by rw [hentry]; rfl)

/-- **A path leads to every entry,** and nothing is dropped at the end of it. -/
theorem HasNode.exists_resolve (htidy : t.Tidy) (hwritten : t.Written) {method : Method}
    {place : List (Option String)} {n : Route.Node η} (hn : t.HasNode method place n)
    (hsound : n.cell.SoundAt place) {entry : η} (hentry : n.entry = some entry) :
    ∃ segments captured, Path.segments (Path.ofSegments segments) = segments
      ∧ (∃ root, t.root? method = some root ∧ root.lead? segments = some place)
      ∧ t.resolve method (Path.ofSegments segments) = some ⟨entry, captured⟩ := by
  obtain ⟨root, hroot, hat⟩ := hn
  obtain ⟨segments, hlead, hchars, hlast⟩ :=
    Route.Node.exists_lead? (hwritten.of_root? htidy hroot) hat
  obtain ⟨captured, hfollow⟩ := Route.Node.exists_follow_of_lead? [] hlead hat
  -- The path does not end with an empty segment, as no empty text leads to an entry.
  have hsegments : Path.IsSegments segments := by
    refine ⟨hchars, fun hempty => ?_⟩
    have hlabel := hlast "/" (fun h => absurd h (by decide)) (by rw [hempty, Option.getD_some])
    have hplace : place.getLast? = some (some "") := by
      cases h : place.getLast? <;> simp_all
    have hnone := hsound.entry hplace
    rw [n.entry_cell, hentry] at hnone
    cases hnone
  have hpath := Path.segments_ofSegments hsegments
  refine ⟨segments, captured, hpath, ⟨root, hroot, hlead⟩, ?_⟩
  rw [resolve, hroot, hpath]
  exact hfollow.trans (by rw [hentry]; rfl)

end RouteTable

/-! ## Cells of a table -/

namespace Store

/-- Whether a cell stands at a place of the tree of a method. -/
def HasCell (s : Store η) (method : Method) (place : List (Option String))
    (c : Route.Cell η) : Prop :=
  ∃ root, s.root? method = some root ∧ root.at? place = some c

/-- What is so of a table and its cells. -/
structure Sound (s : Store η) : Prop where
  /-- Names and cells for variables go together, all that is written fits in a path, every cell has
  an entry at or below it, and none is behind an empty text. -/
  cells : ∀ method place c, s.HasCell method place c → c.SoundAt place
  /-- Nothing is captured under no name, but under names that variables of the tree have. -/
  captures : ∀ method target route, s.resolve method target = some route →
    ∀ key ∈ route.captured.map Prod.fst, ∃ name, key = some name ∧ Token.IsName name
      ∧ ∃ place c, s.HasCell method place c ∧ c.variableName = some name
  /-- The listing succeeds if there is room for the place of every entry. -/
  listable : ∀ depth, (∃ listed, s.routes depth = .ok listed) ↔ ∀ method place c,
    s.HasCell method place c → c.entry.isSome → place.length ≤ depth
  /-- It does not come to a variable without a name. -/
  tooDeep : ∀ depth e, s.routes depth = .error e → e = .tooDeep ⟨⟩
  /-- There may be room enough. -/
  room : ∃ depth listed, s.routes depth = .ok listed
  /-- Every tree has a route in a listing. -/
  roots : ∀ depth listed, s.routes depth = .ok listed → ∀ method root,
    s.root? method = some root → ∃ template, (method, template) ∈ listed
  /-- Every variable is in a template of a listing, under its name and at its place. -/
  named : ∀ depth listed, s.routes depth = .ok listed → ∀ method place c name,
    s.HasCell method place c → c.variableName = some name →
    ∃ before after, Route.shape before = place ∧ (method,
      Path.ofSegments ((before ++ Token.capture name :: after).map Token.segment)) ∈ listed
  /-- A path leads to every entry, and nothing is dropped at the end of it. -/
  reached : ∀ method place c entry, s.HasCell method place c → c.entry = some entry →
    ∃ segments captured, Path.segments (Path.ofSegments segments) = segments
      ∧ (∃ root, s.root? method = some root ∧ root.lead? segments = some place)
      ∧ s.resolve method (Path.ofSegments segments) = some ⟨entry, captured⟩

end Store

namespace RouteTable

variable {t : RouteTable η}

/-- The cells of a table are those of its nodes, place by place. -/
theorem hasCell_store_iff {method : Method} {place : List (Option String)} {c : Route.Cell η} :
    t.store.HasCell method place c ↔ ∃ n, t.HasNode method place n ∧ n.cell = c := by
  simp only [Store.HasCell, HasNode, root?_store, Option.map_eq_some_iff]
  constructor
  · rintro ⟨_, ⟨root, hroot, rfl⟩, hat⟩
    rw [root.at?_cell] at hat
    obtain ⟨n, hn, rfl⟩ := Option.map_eq_some_iff.mp hat
    exact ⟨n, ⟨root, hroot, hn⟩, rfl⟩
  · rintro ⟨n, ⟨root, hroot, hat⟩, rfl⟩
    exact ⟨root.cell, ⟨root, hroot, rfl⟩, by rw [root.at?_cell, hat]; rfl⟩

theorem HasNode.soundAt (htidy : t.Tidy) (hwritten : t.Written) {method : Method}
    {place : List (Option String)} {n : Route.Node η} (h : t.HasNode method place n) :
    n.cell.SoundAt place := by
  obtain ⟨root, hroot, hat⟩ := h
  obtain ⟨hroots, hlist⟩ := htidy.of_root? hroot
  exact Route.Node.soundAt_cell hroots hlist (hwritten.of_root? htidy hroot) hat

/-- What is captured in the cells has the name of a variable of the tree. -/
theorem exists_named_of_resolve_store (htidy : t.Tidy) (hwritten : t.Written) {method : Method}
    {target : String} {route : Route.Cell.Match η}
    (h : t.store.resolve method target = some route) {key : Option String}
    (hkey : key ∈ route.captured.map Prod.fst) : ∃ name, key = some name ∧ Token.IsName name
      ∧ ∃ place c, t.store.HasCell method place c ∧ c.variableName = some name := by
  rw [resolve_store] at h
  obtain ⟨found, hfound, rfl⟩ := Option.map_eq_some_iff.mp h
  obtain ⟨root, hroot, hfind⟩ := Option.bind_eq_some_iff.mp hfound
  simp only [Route.Match.named, List.map_map, List.mem_map, Function.comp_apply] at hkey
  obtain ⟨pair, hpair, rfl⟩ := hkey
  have hname : pair.1 ∈ found.captured.map Prod.fst := List.mem_map_of_mem hpair
  rcases Route.Node.exists_named_of_follow hfind hname with hnone | ⟨place, n, hat, hn⟩
  · cases hnone
  · have hnode : t.HasNode method place n := ⟨root, hroot, hat⟩
    have hpresent : n.cell.variableName = some pair.1 := n.slot_cell.2.trans hn
    exact ⟨pair.1, rfl, (hnode.soundAt htidy hwritten).name _ hpresent, place, n.cell,
      hasCell_store_iff.mpr ⟨n, hnode, rfl⟩, hpresent⟩

/-- There is room for every template where there is room for the place of every cell with an
entry. -/
theorem isListable_iff_hasCell (htidy : t.Tidy) (depth : Nat) : t.isListable depth = true
    ↔ ∀ method place c, t.store.HasCell method place c → c.entry.isSome
      → place.length ≤ depth := by
  rw [isListable_iff_hasNode htidy]
  constructor
  · intro hall method place c hc
    obtain ⟨n, hn, rfl⟩ := hasCell_store_iff.mp hc
    rw [n.entry_cell]
    exact hall method place n hn
  · intro hall method place n hn
    rw [← n.entry_cell]
    exact hall method place n.cell (hasCell_store_iff.mpr ⟨n, hn, rfl⟩)

/-- There may be room for every template. -/
theorem exists_isListable (t : RouteTable η) : ∃ depth, t.isListable depth = true :=
  ⟨(t.entries.map (·.2.1.length)).sum, List.all_eq_true.mpr fun _ he =>
    decide_eq_true (List.le_sum_of_mem (List.mem_map_of_mem he))⟩

/-- What is listed of the cells are the templates. -/
theorem templates_of_routes_store (h : t.Tidy) {depth : Nat} {listed : List (Method × String)}
    (hlisted : t.store.routes depth = .ok listed) : listed = t.templates := by
  rw [routes_store h, routes] at hlisted
  split at hlisted
  · cases hlisted
    rfl
  · cases hlisted

/-- **The cells of a table are sound** if it is tidy and keeps to what can be written. -/
theorem sound_store (htidy : t.Tidy) (hwritten : t.Written) : t.store.Sound where
  cells method place c hc := by
    obtain ⟨n, hn, rfl⟩ := hasCell_store_iff.mp hc
    exact hn.soundAt htidy hwritten
  captures _ _ _ h _ hkey := exists_named_of_resolve_store htidy hwritten h hkey
  listable depth := by
    rw [routes_store htidy, routes, ← isListable_iff_hasCell htidy]
    cases t.isListable depth <;> simp [Except.mapError]
  tooDeep depth e he := by
    rw [routes_store htidy, routes] at he
    split at he <;> cases he
    rfl
  room := by
    obtain ⟨depth, hroom⟩ := t.exists_isListable
    have hlisted := routes_store htidy depth
    rw [routes, if_pos hroom] at hlisted
    exact ⟨depth, t.templates, hlisted⟩
  roots depth listed hlisted method root hroot := by
    rw [root?_store] at hroot
    obtain ⟨n, hn, -⟩ := Option.map_eq_some_iff.mp hroot
    rw [templates_of_routes_store htidy hlisted]
    exact htidy.exists_mem_templates hn
  named depth listed hlisted method place c name hc hname := by
    obtain ⟨n, hn, rfl⟩ := hasCell_store_iff.mp hc
    rw [templates_of_routes_store htidy hlisted]
    exact hn.exists_mem_templates htidy (n.slot_cell.2.symm.trans hname)
  reached method place c entry hc hentry := by
    obtain ⟨n, hn, rfl⟩ := hasCell_store_iff.mp hc
    rw [n.entry_cell] at hentry
    obtain ⟨segments, captured, hpath, ⟨root, hroot, hlead⟩, hresolve⟩ :=
      hn.exists_resolve htidy hwritten (hn.soundAt htidy hwritten) hentry
    refine ⟨segments, (Route.Match.named ⟨entry, captured⟩).captured, hpath,
      ⟨root.cell, ?_, ?_⟩, ?_⟩
    · rw [root?_store, hroot]
      rfl
    · rw [root.lead?_cell, hlead]
    · rw [resolve_store, hresolve]
      rfl

end RouteTable

/-- **Every cell of every table is sound,** after any calls through any views, whether they succeed
or fail. The cells were written one place at a time, and are those of the table of nodes that the
same calls make: it keeps a child and its name together, answers requests alike and lists alike. -/
theorem sound_run (notFound : η) (calls : List (RouterCall η)) :
    let store := ((Shelf.new notFound).run calls).store
    let table := ((Mounts.new notFound).run calls).table
    store.Sound ∧ store = table.store
      ∧ (∀ method target,
        store.resolve method target = (table.resolve method target).map Route.Match.named)
      ∧ ∀ depth, store.routes depth = (table.routes depth).mapError .tooDeep := by
  intro store table
  have hstore : store = table.store := Mounts.store_run notFound calls
  have htidy : table.Tidy :=
    Mounts.tidy_run (s := Mounts.new notFound) (RouteTable.tidy_empty notFound) calls
  have hwritten := ((Mounts.written_new notFound).run calls).table
  rw [hstore]
  exact ⟨RouteTable.sound_store htidy hwritten, rfl, table.resolve_store,
    RouteTable.routes_store htidy⟩

/-- The table of a single route below a prefix. -/
theorem Mounts.table_run_mount_add {notFound : η} {path template : String} {method : Option String}
    {handler : Candidate η} {t : RouteTable η}
    (h : (RouteTable.empty notFound).add (View.root.mount path) method template handler = .ok t) :
    ((Mounts.new notFound).run [.mount 0 path, .add 1 method template handler]).table = t := by
  simp [Mounts.run, Mounts.call, Mounts.new, h, Mounts.commit]

/-- Where a template is too deep below a prefix, its method has a tree and no listing. -/
theorem not_listed_deepBelowMount :
    let tokens := List.replicate 1500 (Token.capture "v")
    let calls : List (RouterCall Unit) := [.mount 0 "/api",
      .add 1 (some "GET") (Path.ofSegments (tokens.map Token.segment)) (.function ())]
    let store := ((Shelf.new ()).run calls).store
    (store.root? .get).isSome ∧ ∀ depth ≤ 1500, store.routes depth = .error (.tooDeep ⟨⟩) := by
  intro tokens calls store
  have hsegment : Path.IsSegments [(Token.capture "v").segment] := ⟨by decide, by decide⟩
  have htokens := RouteTable.tokens_replicate rfl hsegment (View.root.mount "/api") 1500
  have hget : Method.ofToken (some "GET") = .ok .get := rfl
  have hadd := RouteTable.add_of_tokens hget htokens (.empty ()) ()
  have htable := Mounts.table_run_mount_add hadd
  have htidy := Mounts.tidy_run (s := Mounts.new ()) (RouteTable.tidy_empty ()) calls
  have hstore : store = RouteTable.store _ := (Mounts.store_run () calls).trans (congrArg _ htable)
  rw [htable] at htidy
  rw [hstore, RouteTable.root?_store]
  refine ⟨rfl, fun depth hdepth => ?_⟩
  rw [RouteTable.routes_store htidy, RouteTable.routes_insert_empty_of_lt]
  · rfl
  · have hprefix : 0 < (View.root.mount "/api").length := by decide
    rw [List.length_append, List.length_map, List.length_replicate]
    omega

end HttpKit
