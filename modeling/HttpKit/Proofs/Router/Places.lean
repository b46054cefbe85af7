import HttpKit.Proofs.Path
import HttpKit.Proofs.Route.Listing
import HttpKit.Proofs.Router.Dispatch
import Mathlib.Data.List.Dedup
import Mathlib.Data.Prod.Basic

/-!
# What a table lists

A place is a method and the tokens of a template without the names of its variables. A table lists
every place that was registered once, with the handler that was registered there last, and every
variable under the name that the latest registration running through it gave it. All this is said
here of the flat list of registrations (`RouteList.entryAt?`), and then of the table that holds
them:

* `Holds.entryAt?_of_mem` — an entry of the table is what the list says of its place
* `Holds.perm_places` — the places of the entries are those that were registered, each once
-/

namespace HttpKit

variable {η : Type}

/-- A method and the tokens of a template, variables without names. -/
abbrev Place := Method × List (Option String)

/-! ## Places in a flat list -/

namespace Registration

/-- The registration's tokens without the names of variables. -/
def shape (r : Registration η) : List (Option String) := Route.shape r.tokens

/-- Where the registration puts its handler. -/
def place (r : Registration η) : Place := (r.method, r.shape)

theorem shape_getElem? (r : Registration η) (i : Nat) :
    r.shape[i]? = r.tokens[i]?.map Token.text? := List.getElem?_map

theorem shape_getElem?_literal (r : Registration η) (i : Nat) (text : String) :
    r.shape[i]? = some (some text) ↔ r.tokens[i]? = some (.literal text) := by
  rw [shape_getElem?]
  cases r.tokens[i]? with
  | none => simp
  | some token => cases token <;> simp [Token.text?]

theorem shape_getElem?_capture (r : Registration η) (i : Nat) :
    r.shape[i]? = some none ↔ (r.nameAt? i).isSome := by
  rw [shape_getElem?, nameAt?]
  cases r.tokens[i]? with
  | none => simp
  | some token => cases token <;> simp [Token.text?]

theorem getElem?_of_nameAt? {r : Registration η} {i : Nat} {name : String}
    (h : r.nameAt? i = some name) : r.tokens[i]? = some (.capture name) := by
  unfold nameAt? at h
  split at h
  · next htoken => rwa [Option.some.inj h] at htoken
  · cases h

theorem length_shape (r : Registration η) : r.shape.length = r.tokens.length := List.length_map _

end Registration

namespace RouteList

/-- The registrations that run through a place, in order. -/
def through (l : RouteList η) (place : Place) : List (Registration η) :=
  l.routes.filter fun r => r.method = place.1 ∧ place.2 <+: r.shape

/-- The latest registration at a place. -/
def latest? (l : RouteList η) (place : Place) : Option (Registration η) :=
  (l.routes.filter (·.place = place)).getLast?

/-- The present name of the variable that comes next at a place: the one that the latest
registration through this variable gives it. -/
def name? (l : RouteList η) (place : Place) : Option String :=
  (l.through (place.1, place.2 ++ [none])).getLast?.bind (·.nameAt? place.2.length)

/-- The tokens that come after a place, variables under their present names. -/
def tokensAfter (l : RouteList η) (method : Method) (before : List (Option String)) :
    List (Option String) → List Token
  | [] => []
  | some text :: rest => .literal text :: l.tokensAfter method (before ++ [some text]) rest
  | none :: rest =>
    .capture ((l.name? (method, before)).getD "") :: l.tokensAfter method (before ++ [none]) rest

/-- What there is to be listed at a place: its tokens under present names and the handler that was
registered there last. -/
def entryAt? (l : RouteList η) (place : Place) : Option (Method × List Token × η) :=
  (l.latest? place).map fun r => (place.1, l.tokensAfter place.1 [] place.2, r.handler)

theorem append_singleton_prefix_iff {α : Type} {xs ys : List α} {y : α} :
    xs ++ [y] <+: ys ↔ xs <+: ys ∧ ys[xs.length]? = some y := by
  constructor
  · rintro ⟨rest, rfl⟩
    simp
  · rintro ⟨⟨rest, rfl⟩, h⟩
    obtain ⟨more, rfl⟩ : ∃ more, rest = y :: more := by
      cases rest <;> simp_all
    exact ⟨more, by simp⟩

theorem through_nil (l : RouteList η) (method : Method) :
    l.through (method, []) = l.routes.filter (·.method = method) := by
  simp [through]

/-- Of the registrations through a place, those that go on with a text run through the place
beyond it. -/
theorem filter_through_literal (l : RouteList η) (method : Method)
    (before : List (Option String)) (text : String) :
    (l.through (method, before)).filter (·.tokens[before.length]? = some (.literal text))
      = l.through (method, before ++ [some text]) := by
  rw [through, through, List.filter_filter]
  refine List.filter_congr fun r _ => ?_
  rw [← Bool.decide_and, decide_eq_decide, append_singleton_prefix_iff, r.shape_getElem?_literal]
  tauto

/-- Those that go on with a variable run through the place beyond it. -/
theorem filter_through_capture (l : RouteList η) (method : Method)
    (before : List (Option String)) :
    (l.through (method, before)).filter (·.nameAt? before.length |>.isSome)
      = l.through (method, before ++ [none]) := by
  rw [through, through, List.filter_filter]
  refine List.filter_congr fun r _ => ?_
  rw [Bool.eq_iff_iff]
  simp only [Bool.and_eq_true, decide_eq_true_eq, append_singleton_prefix_iff,
    r.shape_getElem?_capture]
  tauto

/-- Those that end there are registered at the place. -/
theorem filter_through_end (l : RouteList η) (method : Method) (before : List (Option String)) :
    (l.through (method, before)).filter (·.tokens.length = before.length)
      = l.routes.filter (·.place = (method, before)) := by
  rw [through, List.filter_filter]
  refine List.filter_congr fun r _ => ?_
  rw [← Bool.decide_and, decide_eq_decide, Registration.place, Prod.mk.injEq, ← r.length_shape]
  constructor
  · rintro ⟨hlength, hmethod, hbegins⟩
    exact ⟨hmethod, (hbegins.eq_of_length hlength.symm).symm⟩
  · rintro ⟨hmethod, hshape⟩
    exact ⟨by rw [hshape], hmethod, hshape ▸ List.prefix_rfl⟩

theorem length_le_of_mem_through {l : RouteList η} {method : Method}
    {before : List (Option String)} {r : Registration η} (h : r ∈ l.through (method, before)) :
    before.length ≤ r.tokens.length := by
  have hbegins := (of_decide_eq_true (List.mem_filter.mp h).2).2
  exact r.length_shape ▸ hbegins.length_le

/-- What is registered beyond a place runs through it. -/
theorem mem_through_of_latest? {l : RouteList η} {method : Method}
    {before after : List (Option String)} {r : Registration η}
    (h : l.latest? (method, before ++ after) = some r) : r ∈ l.through (method, before) := by
  obtain ⟨hmem, hplace⟩ := List.mem_filter.mp (List.mem_of_getLast? h)
  have hplace : r.method = method ∧ r.shape = before ++ after := by
    simpa [Registration.place] using hplace
  exact List.mem_filter.mpr
    ⟨hmem, decide_eq_true ⟨hplace.1, hplace.2 ▸ List.prefix_append before after⟩⟩

/-- A variable that a registration runs through has a name. -/
theorem exists_name? {l : RouteList η} {method : Method} {before : List (Option String)}
    {r : Registration η} (h : r ∈ l.through (method, before ++ [none])) :
    ∃ name, l.name? (method, before) = some name := by
  rw [name?]
  cases hlast : (l.through (method, before ++ [none])).getLast? with
  | none => simp [List.getLast?_eq_none_iff.mp hlast] at h
  | some last =>
    have hmem := List.mem_of_getLast? hlast
    rw [← filter_through_capture] at hmem
    exact Option.isSome_iff_exists.mp (List.mem_filter.mp hmem).2

end RouteList

/-! ## Places in the trees of a list -/

namespace Route

variable {α : Type}

/-- A tree that need not be there lists what it lists as an empty tree. -/
theorem Node.mem_list_ofEntries? {xs : List (List Token × α)} {x : List Token × α} :
    (∃ n, Node.ofEntries? xs = some n ∧ x ∈ n.list) ↔ x ∈ (Node.ofEntries xs).list := by
  by_cases h : xs = []
  · subst h
    simp [Node.ofEntries?, Node.ofEntries, Node.empty, Node.list, Branches.list, Slot.list]
  · simp [Node.ofEntries?, h]

end Route

namespace RouteList

/-- **The tree of the registrations through a place lists what they say of the places beyond.** -/
theorem mem_list_ofEntries (l : RouteList η) (method : Method) {h : η} (tokens : List Token) :
    ∀ (before : List (Option String)),
    (tokens, h) ∈ (Route.Node.ofEntries
        ((l.through (method, before)).map (·.dropTo before.length))).list
      ↔ ∃ r, l.latest? (method, before ++ Route.shape tokens) = some r ∧ r.handler = h
        ∧ tokens = l.tokensAfter method before (Route.shape tokens) := by
  induction tokens with
  | nil =>
    intro before
    rw [Route.Node.mem_list_nil (Route.Node.tidy_ofEntries _), Route.Node.entry_ofEntries,
      filter_dropTo_nil fun r => length_le_of_mem_through, filter_through_end, List.getLast?_map]
    simp [latest?, Registration.dropTo, Route.shape, tokensAfter]
  | cons token tokens ih =>
    intro before
    cases token with
    | literal text =>
      rw [Route.Node.mem_list_literal (Route.Node.tidy_ofEntries _), Route.Node.get?_ofEntries,
        filterMap_tailAfter?, filter_through_literal, Route.Node.mem_list_ofEntries?]
      have ih := ih (before ++ [some text])
      rw [List.length_append, List.length_singleton] at ih
      rw [ih]
      simp [Route.shape_cons, Token.text?, tokensAfter]
    | capture name =>
      rw [Route.Node.mem_list_capture (Route.Node.tidy_ofEntries _), Route.Node.slot_ofEntries,
        name_getLast?, filterMap_tailBelow?, filter_through_capture]
      have ih := ih (before ++ [none])
      rw [List.length_append, List.length_singleton] at ih
      have hname : (l.through (method, before ++ [none])).getLast?.bind (·.nameAt? before.length)
          = l.name? (method, before) := rfl
      have happend : before ++ Route.shape (.capture name :: tokens)
          = (before ++ [none]) ++ Route.shape tokens := by simp [Route.shape_cons, Token.text?]
      rw [hname, happend]
      cases hn : l.name? (method, before) with
      | none =>
        -- Nothing runs through the variable, so nothing is registered beyond it.
        constructor
        · rintro ⟨_, hslot, _⟩
          simp [Route.Slot.ofEntries] at hslot
        · rintro ⟨r, hlatest, _⟩
          obtain ⟨name, hsome⟩ := exists_name? (mem_through_of_latest? hlatest)
          simp [hn] at hsome
      | some present =>
        simp only [Route.Slot.ofEntries, Route.Slot.some.injEq, List.map_map, Function.comp_def]
        simp only [Route.shape_cons, Token.text?, tokensAfter, hn, Option.getD_some,
          List.cons.injEq, Token.capture.injEq]
        constructor
        · rintro ⟨_, ⟨rfl, rfl⟩, hmem⟩
          obtain ⟨r, hlatest, hr, htokens⟩ := ih.mp hmem
          exact ⟨r, hlatest, hr, rfl, htokens⟩
        · rintro ⟨r, hlatest, hr, rfl, htokens⟩
          exact ⟨_, ⟨rfl, rfl⟩, ih.mpr ⟨r, hlatest, hr, htokens⟩⟩

theorem shape_tokensAfter (l : RouteList η) (method : Method) :
    ∀ (after before : List (Option String)), Route.shape (l.tokensAfter method before after) = after
  | [], _ => rfl
  | some text :: rest, before => by
    rw [tokensAfter, Route.shape_cons, shape_tokensAfter l method rest]
    rfl
  | none :: rest, before => by
    rw [tokensAfter, Route.shape_cons, shape_tokensAfter l method rest]
    rfl

theorem latest?_isSome_of_mem {l : RouteList η} {r : Registration η} (h : r ∈ l.routes) :
    (l.latest? r.place).isSome := by
  rw [latest?, List.getLast?_isSome]
  exact List.ne_nil_of_mem (List.mem_filter.mpr ⟨h, decide_eq_true rfl⟩)

theorem mem_of_latest? {l : RouteList η} {place : Place} {r : Registration η}
    (h : l.latest? place = some r) : r ∈ l.routes ∧ r.place = place := by
  simpa using List.mem_filter.mp (List.mem_of_getLast? h)

/-- The tokens that are listed were registered, if not by the registration that is listed then by a
later one that renamed a variable. -/
theorem mem_of_mem_tokensAfter {l : RouteList η} {method : Method} {token : Token} :
    ∀ {after before : List (Option String)} {r : Registration η},
    l.latest? (method, before ++ after) = some r → token ∈ l.tokensAfter method before after →
    ∃ r' ∈ l.routes, token ∈ r'.tokens
  | [], _, _, _, h => by simp [tokensAfter] at h
  | some text :: rest, before, r, hlatest, h => by
    rw [List.append_cons] at hlatest
    rcases List.mem_cons.mp h with rfl | h
    · have hthrough : r ∈ l.through (method, before ++ [some text]) :=
        mem_through_of_latest? hlatest
      rw [← filter_through_literal] at hthrough
      have htoken := of_decide_eq_true (List.mem_filter.mp hthrough).2
      exact ⟨r, (mem_of_latest? hlatest).1, List.mem_of_getElem? htoken⟩
    · exact mem_of_mem_tokensAfter hlatest h
  | none :: rest, before, r, hlatest, h => by
    rw [List.append_cons] at hlatest
    rcases List.mem_cons.mp h with rfl | h
    · obtain ⟨name, hname⟩ := exists_name? (mem_through_of_latest? hlatest)
      obtain ⟨last, hlast, hnameAt⟩ := Option.bind_eq_some_iff.mp hname
      refine ⟨last, List.mem_of_mem_filter (List.mem_of_getLast? hlast), ?_⟩
      rw [hname]
      exact List.mem_of_getElem? (Registration.getElem?_of_nameAt? hnameAt)
    · exact mem_of_mem_tokensAfter hlatest h

end RouteList

/-! ## Places in a table -/

/-- The place that an entry is listed at. -/
def entryPlace (e : Method × List Token × η) : Place := (e.1, Route.shape e.2.1)

namespace RouteTable

/-- Whether no method has two trees, and every tree holds something and nothing in vain. -/
structure Tidy (t : RouteTable η) : Prop where
  methods : (t.roots.map Prod.fst).Nodup
  trees : ∀ root ∈ t.roots, root.2.Tidy ∧ root.2.list ≠ []

theorem tidy_empty (notFound : η) : (empty notFound).Tidy := ⟨List.nodup_nil, by simp [empty]⟩

/-- The methods after a registration: a new one comes last. -/
theorem map_fst_updateRoot (method : Method) (f : Route.Node η → Route.Node η) :
    ∀ (roots : List (Method × Route.Node η)), (updateRoot method f roots).map Prod.fst
      = if method ∈ roots.map Prod.fst then roots.map Prod.fst
        else roots.map Prod.fst ++ [method]
  | [] => rfl
  | (m, node) :: rest => by
    have ih := map_fst_updateRoot method f rest
    by_cases h : m = method
    · simp [updateRoot, h]
    · have h' : method ≠ m := Ne.symm h
      rw [updateRoot, if_neg h, List.map_cons, ih]
      by_cases hm : method ∈ rest.map Prod.fst <;> simp [h', hm]

theorem mem_updateRoot {method : Method} {f : Route.Node η → Route.Node η}
    {root : Method × Route.Node η} : ∀ {roots : List (Method × Route.Node η)},
    root ∈ updateRoot method f roots → root ∈ roots ∨ root.2 = f .empty
      ∨ ∃ before ∈ roots, root.2 = f before.2
  | [], h => by
    obtain rfl := List.mem_singleton.mp h
    exact Or.inr (Or.inl rfl)
  | (m, node) :: rest, h => by
    rw [updateRoot] at h
    split at h
    · rcases List.mem_cons.mp h with rfl | h
      · exact Or.inr (Or.inr ⟨(m, node), List.mem_cons_self, rfl⟩)
      · exact Or.inl (List.mem_cons_of_mem _ h)
    · rcases List.mem_cons.mp h with rfl | h
      · exact Or.inl List.mem_cons_self
      · rcases mem_updateRoot h with h | h | ⟨before, hb, h⟩
        · exact Or.inl (List.mem_cons_of_mem _ h)
        · exact Or.inr (Or.inl h)
        · exact Or.inr (Or.inr ⟨before, List.mem_cons_of_mem _ hb, h⟩)

/-- **Registrations keep a table tidy.** -/
theorem Tidy.insert {t : RouteTable η} (h : t.Tidy) (method : Method) (tokens : List Token)
    (handler : η) : (t.insert method tokens handler).Tidy where
  methods := by
    rw [RouteTable.insert, map_fst_updateRoot]
    split
    · exact h.methods
    · next hm =>
      rw [List.nodup_append]
      refine ⟨h.methods, List.nodup_singleton _, ?_⟩
      rintro m hmem _ hmethod rfl
      exact hm (List.mem_singleton.mp hmethod ▸ hmem)
  trees root hroot := by
    have hlist := Route.Node.list_insert_ne_nil handler tokens
    rcases mem_updateRoot hroot with hroot | hroot | ⟨before, hbefore, hroot⟩
    · exact h.trees root hroot
    · rw [hroot]
      exact ⟨Route.Node.tidy_empty.insert handler tokens, hlist _⟩
    · rw [hroot]
      exact ⟨(h.trees before hbefore).1.insert handler tokens, hlist _⟩

theorem root?_eq_some_iff {t : RouteTable η} (h : t.Tidy) {method : Method}
    {n : Route.Node η} : t.root? method = some n ↔ (method, n) ∈ t.roots := by
  rw [root?, Option.map_eq_some_iff]
  constructor
  · rintro ⟨root, hfind, rfl⟩
    have hmethod := List.find?_some hfind
    simp only [decide_eq_true_eq] at hmethod
    exact hmethod ▸ List.mem_of_find?_eq_some hfind
  · intro hmem
    have hsome : (t.roots.find? (·.1 = method)).isSome :=
      List.find?_isSome.mpr ⟨(method, n), hmem, decide_eq_true rfl⟩
    obtain ⟨root, hfind⟩ := Option.isSome_iff_exists.mp hsome
    have hmethod := List.find?_some hfind
    simp only [decide_eq_true_eq] at hmethod
    have hsame : root = (method, n) :=
      List.inj_on_of_nodup_map h.methods (List.mem_of_find?_eq_some hfind) hmem hmethod
    exact ⟨root, hfind, by rw [hsame]⟩

theorem mem_entries {t : RouteTable η} (h : t.Tidy) {method : Method} {tokens : List Token}
    {handler : η} : (method, tokens, handler) ∈ t.entries
      ↔ ∃ n, t.root? method = some n ∧ (tokens, handler) ∈ n.list := by
  simp only [root?_eq_some_iff h]
  simp only [entries, List.mem_flatMap, List.mem_map]
  constructor
  · rintro ⟨⟨m, n⟩, hroot, ⟨ts, e⟩, hmem, heq⟩
    cases heq
    exact ⟨n, hroot, hmem⟩
  · rintro ⟨n, hroot, hmem⟩
    exact ⟨(method, n), hroot, (tokens, handler), hmem, rfl⟩

/-- **No two entries of a table are listed at the same place.** -/
theorem Tidy.nodup_places {t : RouteTable η} (h : t.Tidy) : (t.entries.map entryPlace).Nodup := by
  have hplaces : t.entries.map entryPlace
      = t.roots.flatMap fun root => (Route.shapes root.2.list).map (root.1, ·) := by
    simp only [entries, List.map_flatMap, Route.shapes, List.map_map]
    rfl
  rw [hplaces, List.nodup_flatMap]
  refine ⟨fun root hroot => ?_, ?_⟩
  · exact (h.trees root hroot).1.nodup_shapes_list.map (Prod.mk_right_injective _)
  · have hmethods := List.pairwise_map.mp h.methods
    refine hmethods.imp fun {a b} hne place ha hb => ?_
    obtain ⟨_, _, rfl⟩ := List.mem_map.mp ha
    obtain ⟨_, _, heq⟩ := List.mem_map.mp hb
    exact hne (congrArg Prod.fst heq).symm

end RouteTable

namespace Mounts

/-- What holds of a table without routes, and is kept by registrations and by another answer when
nothing matches, holds after all calls. -/
theorem table_run {P : RouteTable η → Prop}
    (hinsert : ∀ t method tokens handler, P t → P (t.insert method tokens handler))
    (hnotFound : ∀ (t : RouteTable η) notFound, P t → P { t with notFound }) (s : Mounts η)
    (h : P s.table) (calls : List (RouterCall η)) : P (s.run calls).table := by
  induction calls generalizing s with
  | nil => exact h
  | cons c calls ih =>
    refine ih (s.call c) ?_
    cases c with
    | mount i path =>
      rw [call]
      split <;> exact h
    | add i method path handler =>
      rw [call]
      split
      · next view _ =>
        cases ht : s.table.add view method path handler with
        | error e => exact h
        | ok t =>
          obtain ⟨r, _, rfl⟩ := RouteTable.add_eq_ok_iff.mp ht
          exact hinsert _ _ _ _ h
      · exact h
    | setNotFound i handler =>
      rw [call]
      split
      · cases handler with
        | datum value => exact h
        | function f => exact hnotFound _ f h
      · exact h

theorem tidy_run {s : Mounts η} (h : s.table.Tidy) (calls : List (RouterCall η)) :
    (s.run calls).table.Tidy :=
  table_run (fun _ _ _ _ h => h.insert _ _ _) (fun _ _ h => ⟨h.methods, h.trees⟩) s h calls

end Mounts

namespace Holds

variable {s : Mounts η} {l : RouteList η}

theorem mem_entries (h : Holds s l) (htidy : s.table.Tidy) {method : Method}
    {tokens : List Token} {handler : η} : (method, tokens, handler) ∈ s.table.entries
      ↔ ∃ r, l.latest? (method, Route.shape tokens) = some r ∧ r.handler = handler
        ∧ tokens = l.tokensAfter method [] (Route.shape tokens) := by
  have hlist := l.mem_list_ofEntries method (h := handler) tokens []
  rw [l.through_nil, List.nil_append] at hlist
  rw [RouteTable.mem_entries htidy, h.roots method, ← hlist]
  exact Route.Node.mem_list_ofEntries?

/-- **An entry of the table is what the list says of its place.** -/
theorem entryAt?_of_mem (h : Holds s l) (htidy : s.table.Tidy) {e : Method × List Token × η}
    (he : e ∈ s.table.entries) : l.entryAt? (entryPlace e) = some e := by
  obtain ⟨method, tokens, handler⟩ := e
  obtain ⟨r, hlatest, rfl, htokens⟩ := (h.mem_entries htidy).mp he
  rw [RouteList.entryAt?, entryPlace, hlatest, Option.map_some, ← htokens]

/-- What the list says of a place is an entry of the table. -/
theorem mem_of_entryAt? (h : Holds s l) (htidy : s.table.Tidy) {place : Place}
    {e : Method × List Token × η} (he : l.entryAt? place = some e) :
    e ∈ s.table.entries ∧ entryPlace e = place := by
  obtain ⟨r, hlatest, rfl⟩ := Option.map_eq_some_iff.mp he
  refine ⟨(h.mem_entries htidy).mpr ⟨r, ?_, rfl, ?_⟩, ?_⟩
  · rw [RouteList.shape_tokensAfter]
    exact hlatest
  · rw [RouteList.shape_tokensAfter]
  · rw [entryPlace, RouteList.shape_tokensAfter]

/-- Where a route was registered, there is an entry. -/
theorem exists_entry (h : Holds s l) (htidy : s.table.Tidy) {r : Registration η}
    (hr : r ∈ l.routes) : ∃ e ∈ s.table.entries, entryPlace e = r.place := by
  obtain ⟨latest, hlatest⟩ := Option.isSome_iff_exists.mp (RouteList.latest?_isSome_of_mem hr)
  have he : l.entryAt? r.place = some _ := Option.map_eq_some_iff.mpr ⟨latest, hlatest, rfl⟩
  exact ⟨_, h.mem_of_entryAt? htidy he⟩

/-- Where there is an entry, a route was registered. -/
theorem exists_registration (h : Holds s l) (htidy : s.table.Tidy)
    {e : Method × List Token × η} (he : e ∈ s.table.entries) :
    ∃ r, l.latest? (entryPlace e) = some r ∧ r.handler = e.2.2 := by
  obtain ⟨r, hlatest, hr, _⟩ := (h.mem_entries htidy).mp he
  exact ⟨r, hlatest, hr⟩

/-- **The places of the entries are those that were registered, each once.** -/
theorem perm_places (h : Holds s l) (htidy : s.table.Tidy) :
    (s.table.entries.map entryPlace).Perm (l.routes.map Registration.place).dedup := by
  rw [List.perm_ext_iff_of_nodup htidy.nodup_places (List.nodup_dedup _)]
  intro place
  rw [List.mem_dedup, List.mem_map, List.mem_map]
  constructor
  · rintro ⟨e, he, rfl⟩
    obtain ⟨r, hlatest, _⟩ := h.exists_registration htidy he
    exact ⟨r, RouteList.mem_of_latest? hlatest⟩
  · rintro ⟨r, hr, rfl⟩
    exact h.exists_entry htidy hr

/-- A table can be listed when no registration is too deep. -/
theorem isListable_iff (h : Holds s l) (htidy : s.table.Tidy) (depth : Nat) :
    s.table.isListable depth = true ↔ ∀ r ∈ l.routes, r.tokens.length ≤ depth := by
  have hdepth : ∀ {e : Method × List Token × η} {r : Registration η}, entryPlace e = r.place →
      e.2.1.length = r.tokens.length := by
    intro e r hplace
    have hshape := congrArg (fun place : Place => place.2.length) hplace
    simpa [entryPlace, Registration.place, Registration.shape, Route.shape] using hshape
  rw [RouteTable.isListable, List.all_eq_true]
  constructor
  · intro hall r hr
    obtain ⟨e, he, hplace⟩ := h.exists_entry htidy hr
    exact hdepth hplace ▸ of_decide_eq_true (hall e he)
  · intro hall e he
    obtain ⟨r, hlatest, _⟩ := h.exists_registration htidy he
    obtain ⟨hr, hplace⟩ := RouteList.mem_of_latest? hlatest
    exact decide_eq_true (hdepth hplace.symm ▸ hall r hr)

/-- The listing lists every template unless a registration is too deep. -/
theorem routes_eq (h : Holds s l) (htidy : s.table.Tidy) (depth : Nat) :
    if ∀ r ∈ l.routes, r.tokens.length ≤ depth
    then s.table.routes depth = .ok s.table.templates else s.table.routes depth = .error ⟨⟩ := by
  rw [RouteTable.routes]
  split
  · next hall => rw [if_pos ((h.isListable_iff htidy depth).mpr hall)]
  · next hdeep => rw [if_neg (mt (h.isListable_iff htidy depth).mp hdeep)]

end Holds

end HttpKit
