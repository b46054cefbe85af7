import HttpKit.Proofs.Router.Listing

/-!
# The order of registrations

Registrations that take places of their own and agree on the names of the variables that they share
are independent: of each place and each variable only one thing can be said, whichever was made
last. So they can be made in any order. The same requests are answered alike, and the same routes
are listed, though in another order (`addAll_perm`).
-/

namespace HttpKit

variable {η : Type}

/-! ## Registrations one after the other -/

/-- What is given to register a route through a view. -/
structure Addition (η : Type) where
  view : View
  method : Option String
  path : String
  handler : Candidate η

/-- The registration that it makes, if all that is given is valid. -/
def Addition.registration? (a : Addition η) : Option (Registration η) :=
  Registration.of? a.view a.method a.path a.handler

namespace RouteTable

/-- Registers routes one after the other, unless one of them is refused. -/
def addAll (t : RouteTable η) (additions : List (Addition η)) :
    Except RegistrationError (RouteTable η) :=
  additions.foldlM (fun t a => t.add a.view a.method a.path a.handler) t

/-- Makes registrations one after the other. -/
def insertAll (t : RouteTable η) (rs : List (Registration η)) : RouteTable η :=
  rs.foldl (fun t r => t.insert r.method r.tokens r.handler) t

@[simp]
theorem insertAll_nil (t : RouteTable η) : t.insertAll [] = t := rfl

@[simp]
theorem insertAll_cons (t : RouteTable η) (r : Registration η) (rs : List (Registration η)) :
    t.insertAll (r :: rs) = (t.insert r.method r.tokens r.handler).insertAll rs := rfl

theorem insertAll_append (t : RouteTable η) (rs rs' : List (Registration η)) :
    t.insertAll (rs ++ rs') = (t.insertAll rs).insertAll rs' := List.foldl_append

/-- Routes are registered if all of them are valid. -/
theorem addAll_eq_ok_iff {additions : List (Addition η)} {t t' : RouteTable η} :
    t.addAll additions = .ok t' ↔ (∀ a ∈ additions, a.registration?.isSome)
      ∧ t' = t.insertAll (additions.filterMap Addition.registration?) := by
  induction additions generalizing t with
  | nil => exact ⟨fun h => ⟨by simp, (Except.ok.inj h).symm⟩, fun h => congrArg _ h.2.symm⟩
  | cons a additions ih =>
    have hcons : t.addAll (a :: additions)
        = (t.add a.view a.method a.path a.handler).bind (·.addAll additions) := List.foldlM_cons
    have hbind : t.addAll (a :: additions) = .ok t' ↔ ∃ t₁,
        t.add a.view a.method a.path a.handler = .ok t₁ ∧ t₁.addAll additions = .ok t' := by
      rw [hcons]
      cases t.add a.view a.method a.path a.handler <;> simp [Except.bind]
    have hadd : ∀ t₁, t.add a.view a.method a.path a.handler = .ok t₁
        ↔ ∃ r, a.registration? = some r ∧ t₁ = t.insert r.method r.tokens r.handler :=
      fun _ => add_eq_ok_iff
    simp only [hbind, hadd, ih]
    cases hr : a.registration? <;> simp [hr]

theorem Tidy.insertAll {t : RouteTable η} (h : t.Tidy) (rs : List (Registration η)) :
    (t.insertAll rs).Tidy := by
  induction rs generalizing t with
  | nil => exact h
  | cons r rs ih => exact ih (h.insert r.method r.tokens r.handler)

end RouteTable

theorem Holds.insertAll {s : Mounts η} {l : RouteList η} (h : Holds s l)
    (rs : List (Registration η)) :
    Holds { s with table := s.table.insertAll rs } { l with routes := l.routes ++ rs } := by
  induction rs generalizing s l with
  | nil => simpa using h
  | cons r rs ih => simpa using ih (h.insert r)

/-! ## Independent registrations -/

/-- Whether registrations do not overwrite each other: no two take the same place, and those that
run through the same variable name it alike. -/
structure Registration.Independent (rs : List (Registration η)) : Prop where
  places : (rs.map Registration.place).Nodup
  names : ∀ r ∈ rs, ∀ r' ∈ rs, r.method = r'.method →
    ∀ i name name', r.shape.take i = r'.shape.take i →
      r.nameAt? i = some name → r'.nameAt? i = some name' → name = name'

theorem Registration.Independent.perm {rs rs' : List (Registration η)}
    (h : Registration.Independent rs) (hperm : rs.Perm rs') : Registration.Independent rs' where
  places := (hperm.map _).nodup_iff.mp h.places
  names r hr r' hr' := h.names r (hperm.mem_iff.mpr hr) r' (hperm.mem_iff.mpr hr')

namespace RouteList

variable {l l' : RouteList η}

/-- Nothing takes a place after a registration did. -/
theorem latest?_eq_some_iff (h : Registration.Independent l.routes) {place : Place}
    {r : Registration η} : l.latest? place = some r ↔ r ∈ l.routes ∧ r.place = place := by
  refine ⟨mem_of_latest?, ?_⟩
  rintro ⟨hr, rfl⟩
  obtain ⟨latest, hlatest⟩ := Option.isSome_iff_exists.mp (latest?_isSome_of_mem hr)
  obtain ⟨hmem, hplace⟩ := mem_of_latest? hlatest
  rw [hlatest, List.inj_on_of_nodup_map h.places hmem hr hplace]

theorem mem_through_capture {method : Method} {before : List (Option String)}
    {r : Registration η} (h : r ∈ l.through (method, before ++ [none])) :
    r ∈ l.routes ∧ r.method = method ∧ r.shape.take before.length = before := by
  obtain ⟨hr, hthrough⟩ := List.mem_filter.mp h
  obtain ⟨hmethod, hbegins⟩ := of_decide_eq_true hthrough
  have hbefore : before <+: r.shape := (List.prefix_append before [none]).trans hbegins
  exact ⟨hr, hmethod, (List.prefix_iff_eq_take.mp hbefore).symm⟩

/-- Every registration that runs through a variable gives it its present name. -/
theorem name?_eq_some_iff (h : Registration.Independent l.routes) {method : Method}
    {before : List (Option String)} {name : String} : l.name? (method, before) = some name
      ↔ ∃ r ∈ l.through (method, before ++ [none]), r.nameAt? before.length = some name := by
  constructor
  · intro hname
    obtain ⟨last, hlast, hnameAt⟩ := Option.bind_eq_some_iff.mp hname
    exact ⟨last, List.mem_of_getLast? hlast, hnameAt⟩
  · rintro ⟨r, hr, hnameAt⟩
    obtain ⟨present, hpresent⟩ := exists_name? hr
    obtain ⟨last, hlast, hlastAt⟩ := Option.bind_eq_some_iff.mp hpresent
    obtain ⟨hmem, hmethod, hshape⟩ := mem_through_capture hr
    obtain ⟨hmem', hmethod', hshape'⟩ := mem_through_capture (List.mem_of_getLast? hlast)
    rw [hpresent, h.names last hmem' r hmem (hmethod'.trans hmethod.symm) _ _ _
      (hshape'.trans hshape.symm) hlastAt hnameAt]

/-! ## Independent registrations in another order -/

theorem through_perm (hperm : l.routes.Perm l'.routes) (place : Place) :
    (l.through place).Perm (l'.through place) := hperm.filter _

theorem through_eq_nil_iff_of_perm (hperm : l.routes.Perm l'.routes) (place : Place) :
    l.through place = [] ↔ l'.through place = [] := by
  rw [List.eq_nil_iff_length_eq_zero, (through_perm hperm place).length_eq,
    ← List.eq_nil_iff_length_eq_zero]

theorem latest?_of_perm (h : Registration.Independent l.routes) (hperm : l.routes.Perm l'.routes)
    (place : Place) : l.latest? place = l'.latest? place := by
  ext r
  rw [latest?_eq_some_iff h, latest?_eq_some_iff (h.perm hperm), hperm.mem_iff]

theorem name?_of_perm (h : Registration.Independent l.routes) (hperm : l.routes.Perm l'.routes)
    (method : Method) (before : List (Option String)) :
    l.name? (method, before) = l'.name? (method, before) := by
  ext name
  rw [name?_eq_some_iff h, name?_eq_some_iff (h.perm hperm)]
  simp only [(through_perm hperm _).mem_iff]

theorem tokensAfter_of_perm (h : Registration.Independent l.routes)
    (hperm : l.routes.Perm l'.routes) (method : Method) : ∀ (after before : List (Option String)),
    l.tokensAfter method before after = l'.tokensAfter method before after
  | [], _ => rfl
  | some text :: rest, before => by
    rw [tokensAfter, tokensAfter, tokensAfter_of_perm h hperm method rest]
  | none :: rest, before => by
    rw [tokensAfter, tokensAfter, tokensAfter_of_perm h hperm method rest,
      name?_of_perm h hperm]

theorem entryAt?_of_perm (h : Registration.Independent l.routes) (hperm : l.routes.Perm l'.routes)
    (place : Place) : l.entryAt? place = l'.entryAt? place := by
  rw [entryAt?, entryAt?, latest?_of_perm h hperm, tokensAfter_of_perm h hperm]

theorem fits_iff_of_perm (hperm : l.routes.Perm l'.routes) {method : Method}
    {tokens : List Token} {values : Nat → String} :
    l.Fits method tokens values ↔ l'.Fits method tokens values := by
  have hfree : l.Free method [] (Route.shape tokens) values
      ↔ l'.Free method [] (Route.shape tokens) values := by
    simp only [Free, through_eq_nil_iff_of_perm hperm]
  exact ⟨fun h => ⟨h.chars, hfree.mp h.free, h.last⟩,
    fun h => ⟨h.chars, hfree.mpr h.free, h.last⟩⟩

end RouteList

namespace Holds

variable {s s' : Mounts η} {l l' : RouteList η}

theorem mem_entries_of_perm (h : Holds s l) (h' : Holds s' l') (htidy : s.table.Tidy)
    (htidy' : s'.table.Tidy) (hind : Registration.Independent l.routes)
    (hperm : l.routes.Perm l'.routes) {e : Method × List Token × η} :
    e ∈ s.table.entries ↔ e ∈ s'.table.entries := by
  constructor
  · intro he
    have hat := h.entryAt?_of_mem htidy he
    rw [RouteList.entryAt?_of_perm hind hperm] at hat
    exact (h'.mem_of_entryAt? htidy' hat).1
  · intro he
    have hat := h'.entryAt?_of_mem htidy' he
    rw [← RouteList.entryAt?_of_perm hind hperm] at hat
    exact (h.mem_of_entryAt? htidy hat).1

/-- **Independent registrations are listed alike in any order,** up to the order of the entries. -/
theorem entries_perm (h : Holds s l) (h' : Holds s' l') (htidy : s.table.Tidy)
    (htidy' : s'.table.Tidy) (hind : Registration.Independent l.routes)
    (hperm : l.routes.Perm l'.routes) : s.table.entries.Perm s'.table.entries :=
  (List.perm_ext_iff_of_nodup htidy.nodup_places.of_map htidy'.nodup_places.of_map).mpr
    fun _ => h.mem_entries_of_perm h' htidy htidy' hind hperm

/-- **They answer alike:** a path leads to the same handler with the same captures. -/
theorem resolve_of_perm (h : Holds s l) (h' : Holds s' l') (htidy : s.table.Tidy)
    (htidy' : s'.table.Tidy) (hind : Registration.Independent l.routes)
    (hperm : l.routes.Perm l'.routes) (method : Method) (target : String) :
    s.table.resolve method target = s'.table.resolve method target := by
  ext route
  rw [h.resolve_eq_some_iff htidy, h'.resolve_eq_some_iff htidy']
  simp only [h.mem_entries_of_perm h' htidy htidy' hind hperm, RouteList.fits_iff_of_perm hperm]

end Holds

/-! ## Routers -/

/-- **The order of registrations does not matter where they do not overwrite each other.** Made in
another order, through whatever views, they succeed as well, every request is answered alike, and
the same routes are listed, up to their order. -/
theorem addAll_perm {ω : Type} {notFound : Handler ω}
    {additions additions' : List (Addition (Handler ω))} {router : Router ω}
    (hadd : (RouteTable.empty notFound).addAll additions = .ok router)
    (hind : Registration.Independent (additions.filterMap Addition.registration?))
    (hperm : additions.Perm additions') :
    ∃ router' : Router ω, (RouteTable.empty notFound).addAll additions' = .ok router'
      ∧ (∀ method target, router'.resolve method target = router.resolve method target)
      ∧ (∀ request, router'.handle request = router.handle request)
      ∧ router'.entries.Perm router.entries
      ∧ router'.templates.Perm router.templates
      ∧ ∀ depth, router'.isListable depth = router.isListable depth := by
  obtain ⟨hvalid, rfl⟩ := RouteTable.addAll_eq_ok_iff.mp hadd
  have hvalid' : ∀ a ∈ additions', a.registration?.isSome :=
    fun a ha => hvalid a (hperm.mem_iff.mpr ha)
  have hrs := hperm.filterMap Addition.registration?
  have h := (Holds.new notFound).insertAll (additions.filterMap Addition.registration?)
  have h' := (Holds.new notFound).insertAll (additions'.filterMap Addition.registration?)
  have htidy := (RouteTable.tidy_empty notFound).insertAll
    (additions.filterMap Addition.registration?)
  have htidy' := (RouteTable.tidy_empty notFound).insertAll
    (additions'.filterMap Addition.registration?)
  have hresolve := h.resolve_of_perm h' htidy htidy' hind hrs
  have hentries := h.entries_perm h' htidy htidy' hind hrs
  refine ⟨_, RouteTable.addAll_eq_ok_iff.mpr ⟨hvalid', rfl⟩, fun method target => ?_,
    fun request => ?_, hentries.symm, ?_, ?_⟩
  · exact (hresolve method target).symm
  · have hmiss := h.notFound.trans h'.notFound.symm
    have hroute := hresolve request.method request.target
    simp only [Mounts.new] at hmiss hroute
    rw [Router.handle, Router.handle, hroute, hmiss]
  · exact hentries.symm.map _
  · exact fun _ => hentries.symm.all_eq

/-- Routes below one variable and beside it, partly through a view. -/
def userRoutes : List (Addition (Handler Unit)) :=
  [⟨.root, some "GET", "/users/\x7bid\x7d", .function fun _ => return .nothing⟩,
    ⟨["users"], some "get", "\x7bid\x7d/posts/", .function fun _ => return .datum .null⟩,
    ⟨["users"], some "GET", "/me", .function fun _ => return .nothing⟩]

theorem userRoutes_reverse_alike :
    ∃ router router' : Router Unit,
      (RouteTable.empty Router.new.notFound).addAll userRoutes = .ok router
      ∧ (RouteTable.empty Router.new.notFound).addAll userRoutes.reverse = .ok router'
      ∧ (∀ request, router'.handle request = router.handle request)
      ∧ router'.templates.Perm router.templates := by
  have hadd := RouteTable.addAll_eq_ok_iff (t := .empty Router.new.notFound).mpr
    ⟨(by decide : ∀ a ∈ userRoutes, a.registration?.isSome), rfl⟩
  have hname : ∀ r ∈ userRoutes.filterMap Addition.registration?, ∀ token ∈ r.tokens,
      token.text? = none → token = .capture "id" := by
    decide
  have hnameAt : ∀ r ∈ userRoutes.filterMap Addition.registration?, ∀ i name,
      r.nameAt? i = some name → name = "id" := by
    intro r hr i name h
    have htoken := List.mem_of_getElem? (Registration.getElem?_of_nameAt? h)
    exact Token.capture.inj (hname r hr _ htoken rfl)
  have hind : Registration.Independent (userRoutes.filterMap Addition.registration?) :=
    ⟨by decide, fun r hr r' hr' _ i name name' _ h h' =>
      (hnameAt r hr i name h).trans (hnameAt r' hr' i name' h').symm⟩
  obtain ⟨router', hadd', _, hhandle, _, hroutes, _⟩ :=
    addAll_perm hadd hind userRoutes.reverse_perm.symm
  exact ⟨_, router', hadd, hadd', hhandle, hroutes⟩

end HttpKit
