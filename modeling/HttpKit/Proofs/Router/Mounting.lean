import HttpKit.Proofs.Path
import HttpKit.Proofs.Route.Listing
import HttpKit.Proofs.Router.Dispatch

/-!
# Mounting

A view puts its segments before every template, as texts: braces around one of them do not make a
variable of it. So registering through a view is registering at the joined path exactly when no
segment of the view is in braces (`add_mount`), and mounting twice is mounting once below the joined
prefix.

All segments of views and of registrations come from paths (`RouteList.Written`), so they can be
joined to a path and cut again without loss.
-/

namespace HttpKit

variable {η : Type}

/-! ## Views and their segments -/

namespace View

/-- The view that is reached by mounting one path below the other. -/
def ofMounts (paths : List String) : View := paths.foldl mount root

/-- The path of a template below the view. -/
def join (v : View) (template : String) : String := Path.ofSegments (v ++ Path.segments template)

theorem isSegments_mount {v : View} (h : Path.IsSegments v) (path : String) :
    Path.IsSegments (v.mount path) := h.append (Path.isSegments_segments path)

theorem isSegments_ofMounts (paths : List String) : Path.IsSegments (ofMounts paths) := by
  induction paths using List.reverseRecOn with
  | nil => exact Path.isSegments_nil
  | append_singleton paths path ih =>
    rw [ofMounts, List.foldl_append]
    exact isSegments_mount ih path

/-- **Mounting twice is mounting once below the joined prefix.** -/
theorem mount_mount (v : View) (path next : String) :
    (v.mount path).mount next
      = v.mount (Path.ofSegments (Path.segments path ++ Path.segments next)) := by
  have hboth := (Path.isSegments_segments path).append (Path.isSegments_segments next)
  rw [mount, mount, mount, Path.segments_ofSegments hboth, List.append_assoc]

end View

namespace RouteTable

/-! ## Tokens -/

theorem tokens_root_ofSegments {ss : List String} (h : Path.IsSegments ss) :
    tokens .root (Path.ofSegments ss) = ss.mapM Token.ofSegment := by
  rw [tokens_eq, Path.segments_ofSegments h]
  cases ss.mapM Token.ofSegment <;> rfl

theorem tokens_eq_ok_iff {view : View} {path : String} {ts : List Token} :
    tokens view path = .ok ts
      ↔ ∃ more, (Path.segments path).mapM Token.ofSegment = .ok more
        ∧ ts = view.map .literal ++ more := by
  rw [tokens_eq]
  cases (Path.segments path).mapM Token.ofSegment <;> simp [Except.map, eq_comm]

theorem map_segment_of_tokens {view : View} {path : String} {ts : List Token}
    (h : tokens view path = .ok ts) : ts.map Token.segment = view ++ Path.segments path := by
  obtain ⟨more, hread, rfl⟩ := tokens_eq_ok_iff.mp h
  rw [List.map_append, Token.map_segment_of_mapM hread, List.map_map]
  simp [Function.comp_def, Token.segment]

theorem tokens_join {v : View} (hv : Path.IsSegments v) (template : String) :
    tokens .root (v.join template) = (v ++ Path.segments template).mapM Token.ofSegment :=
  tokens_root_ofSegments (hv.append (Path.isSegments_segments template))

/-- Below a view without braces a template has the tokens of the joined path. -/
theorem tokens_join_of_plain {v : View} (hv : Path.IsSegments v)
    (hplain : ∀ s ∈ v, ¬Token.IsBraced s) (template : String) :
    tokens .root (v.join template) = tokens v template := by
  rw [tokens_join hv, Token.mapM_ofSegment_append hplain, tokens_eq]

/-- Only below a view without braces does it have them. -/
theorem plain_of_tokens_join {v : View} (hv : Path.IsSegments v) {template : String}
    {ts : List Token} (h : tokens .root (v.join template) = .ok (v.map .literal ++ ts)) :
    ∀ s ∈ v, ¬Token.IsBraced s := by
  rw [tokens_join hv] at h
  exact Token.not_isBraced_of_mapM h

/-! ## Registrations -/

/-- Only its tokens matter of a template and the view that it is seen through. -/
theorem add_congr {view view' : View} {path path' : String}
    (h : tokens view path = tokens view' path') (t : RouteTable η) (method : Option String)
    (handler : Candidate η) :
    t.add view method path handler = t.add view' method path' handler := by
  rw [add, add, h]

theorem add_of_tokens {view : View} {method : Option String} {path : String} {m : Method}
    {ts : List Token} (hm : Method.ofToken method = .ok m) (hts : tokens view path = .ok ts)
    (t : RouteTable η) (handler : η) :
    t.add view method path (.function handler) = .ok (t.insert m ts handler) := by
  simp only [add, hm, hts]
  rfl

theorem entries_insert_empty (notFound : η) (m : Method) (ts : List Token) (handler : η) :
    ((empty notFound).insert m ts handler).entries = [(m, ts, handler)] := by
  simp [entries, RouteTable.insert, empty, updateRoot, Route.Node.list_insert_empty]

/-- In an empty table a registration tells its tokens. -/
theorem tokens_of_add_empty {notFound : η} {view : View} {method : Option String} {path : String}
    {m : Method} {ts : List Token} {handler : η} (hm : Method.ofToken method = .ok m)
    (h : (empty notFound).add view method path (.function handler)
      = .ok ((empty notFound).insert m ts handler)) : tokens view path = .ok ts := by
  cases hts : tokens view path with
  | error e =>
    simp only [add, hm, hts] at h
    cases h
  | ok found =>
    rw [add_of_tokens hm hts] at h
    have hentries := congrArg entries (Except.ok.inj h)
    rw [entries_insert_empty, entries_insert_empty] at hentries
    simpa using hentries

/-- **A view registers its segments as texts.** Through a view that is reached by mounting and one
more mount below it, a route is registered as at the joined path if no segment of the prefix is in
braces: with the same outcome, and on the same table. If one is in braces, the two differ on a new
table whenever method and template are valid. And mounts one below the other are one mount of the
joined prefix. -/
theorem add_mount (mounts : List String) (path template : String) (method : Option String)
    (handler : η) :
    let view := View.ofMounts mounts
    let below := view.mount path
    ((∀ s ∈ below, ¬Token.IsBraced s) → ∀ t : RouteTable η,
      t.add below method template (.function handler)
        = t.add .root method (below.join template) (.function handler))
    ∧ (∀ m ts, Method.ofToken method = .ok m → tokens .root template = .ok ts →
      (∀ t : RouteTable η, t.add below method template (.function handler)
        = .ok (t.insert m (below.map .literal ++ ts) handler))
      ∧ ((∃ s ∈ below, Token.IsBraced s) → ∀ notFound : η,
        (empty notFound).add below method template (.function handler)
          ≠ (empty notFound).add .root method (below.join template) (.function handler)))
    ∧ ∀ next, below.mount next
        = view.mount (Path.ofSegments (Path.segments path ++ Path.segments next)) := by
  intro view below
  have hbelow : Path.IsSegments below :=
    View.isSegments_mount (View.isSegments_ofMounts mounts) path
  refine ⟨fun hplain t => ?_, fun m ts hm hts => ?_, View.mount_mount view path⟩
  · exact add_congr (tokens_join_of_plain hbelow hplain template).symm t method _
  · have htokens : tokens below template = .ok (below.map .literal ++ ts) := by
      obtain ⟨_, hread, rfl⟩ := tokens_eq_ok_iff.mp hts
      exact tokens_eq_ok_iff.mpr ⟨_, hread, rfl⟩
    refine ⟨fun t => add_of_tokens hm htokens t handler, ?_⟩
    rintro ⟨s, hs, hbraced⟩ notFound hsame
    rw [add_of_tokens hm htokens] at hsame
    exact plain_of_tokens_join hbelow (tokens_of_add_empty hm hsame.symm) s hs hbraced

/-- A prefix in braces is listed like a variable and captures nothing: below it a request is not
found that the joined template takes. -/
theorem mount_braces_captures_nothing :
    let below := View.root.mount "/\x7btenant\x7d"
    ∃ mounted joined : RouteTable Unit,
      (empty ()).add below (some "GET") "/users" (.function ()) = .ok mounted
      ∧ (empty ()).add .root (some "GET") (below.join "/users") (.function ()) = .ok joined
      ∧ mounted.templates = joined.templates
      ∧ mounted.resolve .get "/acme/users" = none
      ∧ joined.resolve .get "/acme/users" = some ⟨(), [("tenant", "acme")]⟩ := by
  intro below
  have hbelow : Path.IsSegments below := View.isSegments_mount Path.isSegments_nil _
  have htokens : tokens .root (below.join "/users") = .ok [.capture "tenant", .literal "users"] :=
    (tokens_join hbelow "/users").trans rfl
  refine ⟨_, _, rfl, add_of_tokens rfl htokens _ (), ?_, rfl, rfl⟩
  rw [templates, templates, entries_insert_empty, entries_insert_empty]
  rfl

end RouteTable

/-! ## Segments of a list -/

/-- A registration has the tokens of its template, seen through its view. -/
theorem Registration.tokens_of?_eq {view : View} {method : Option String} {path : String}
    {handler : Candidate η} {r : Registration η}
    (h : Registration.of? view method path handler = some r) :
    RouteTable.tokens view path = .ok r.tokens := by
  unfold Registration.of? at h
  split at h
  · next hts =>
    cases h
    exact hts
  · cases h

namespace RouteList

variable {l : RouteList η}

/-- Whether views and registrations have segments that a path can have. -/
structure Written (l : RouteList η) : Prop where
  views : ∀ view ∈ l.views, Path.IsSegments view
  routes : ∀ r ∈ l.routes, Path.IsSegments (r.tokens.map Token.segment)

theorem written_new (notFound : η) : (new notFound).Written where
  views view h := List.mem_singleton.mp h ▸ Path.isSegments_nil
  routes r h := by simp [new] at h

/-- **All segments come from paths.** -/
theorem Written.call (h : l.Written) (c : RouterCall η) : (l.call c).Written := by
  cases c with
  | mount i path =>
    rw [RouteList.call]
    split
    · next view hview =>
      refine ⟨fun v hv => ?_, h.routes⟩
      rcases List.mem_append.mp hv with hv | hv
      · exact h.views v hv
      · rw [List.mem_singleton.mp hv]
        exact View.isSegments_mount (h.views view (List.mem_of_getElem? hview)) path
    · exact h
  | add i method path handler =>
    rw [RouteList.call]
    split
    · next view hview =>
      refine ⟨h.views, fun r hr => ?_⟩
      rcases List.mem_append.mp hr with hr | hr
      · exact h.routes r hr
      · have htokens := Registration.tokens_of?_eq (Option.mem_toList.mp hr)
        rw [RouteTable.map_segment_of_tokens htokens]
        exact View.isSegments_mount (h.views view (List.mem_of_getElem? hview)) path
    · exact h
  | setNotFound i handler =>
    simp only [RouteList.call]
    split
    · exact ⟨h.views, h.routes⟩
    · exact h

theorem Written.run (h : l.Written) (calls : List (RouterCall η)) : (l.run calls).Written := by
  induction calls generalizing l with
  | nil => exact h
  | cons c calls ih => exact ih (h.call c)

end RouteList

end HttpKit
