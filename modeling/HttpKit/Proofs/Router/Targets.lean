import HttpKit.Proofs.Path
import HttpKit.Router
import Mathlib.Data.List.DropRight
import Mathlib.Data.List.Induction

/-!
# Targets that take the same route

What counts of a path is its core: the path without its query, with a slash in front, and without
slashes at the end. Paths have the same segments if and only if they have the same core
(`segments_eq_iff_core_eq`), and routes are found by segments alone.

## How the argument goes

* cutting the query off and putting a slash in front can be done in either order
  (`canonical_eq_rooted`)
* dropping empty pieces at the end and joining the rest drops the separators at the end
  (`intercalate_rdropWhile_pieces`), so the core is read off the segments (`core_eq`)
* the core has the segments of its path (`segments_core`), so the segments are read off the core
-/

namespace HttpKit

namespace Text

/-! ## Pieces at the end of a text -/

theorem pieces_ne_nil (sep : Char) (cs : List Char) : pieces sep cs ≠ [] := by
  rw [pieces_eq_splitOn]
  exact List.splitOn_ne_nil sep cs

theorem pieces_concat_sep (sep : Char) (cs : List Char) :
    pieces sep (cs ++ [sep]) = pieces sep cs ++ [[]] := by
  induction cs with
  | nil => simp [pieces]
  | cons c cs ih =>
    rw [List.cons_append, pieces_cons, pieces_cons, ih]
    split
    · rfl
    · cases h : pieces sep cs with
      | nil => exact absurd h (pieces_ne_nil sep cs)
      | cons piece rest => rfl

/-- A character that is no separator belongs to the last piece. -/
theorem exists_pieces_concat {sep c : Char} (hc : c ≠ sep) (cs : List Char) :
    ∃ front last, pieces sep cs = front ++ [last] ∧
      pieces sep (cs ++ [c]) = front ++ [last ++ [c]] := by
  induction cs with
  | nil => exact ⟨[], [], rfl, by simp [pieces, hc, extendHead]⟩
  | cons d cs ih =>
    obtain ⟨front, last, hcs, hconcat⟩ := ih
    rw [List.cons_append, pieces_cons, pieces_cons, hcs, hconcat]
    by_cases hd : d = sep
    · exact ⟨[] :: front, last, by simp [hd], by simp [hd]⟩
    · cases front with
      | nil => exact ⟨[], d :: last, by simp [hd, extendHead], by simp [hd, extendHead]⟩
      | cons first front =>
        exact ⟨(d :: first) :: front, last, by simp [hd, extendHead], by simp [hd, extendHead]⟩

theorem rdropWhile_cons {p : Char → Bool} {cs : List Char} (h : cs.rdropWhile p ≠ []) (c : Char) :
    (c :: cs).rdropWhile p = c :: cs.rdropWhile p := by
  have hback : (cs.reverse.dropWhile p).isEmpty = false := by
    simpa [List.rdropWhile] using h
  rw [List.rdropWhile, List.reverse_cons, List.dropWhile_append, hback]
  simp [List.rdropWhile]

theorem rdropWhile_append {p : Char → Bool} {back : List Char} (h : ∀ c ∈ back, p c = true)
    (front : List Char) : (front ++ back).rdropWhile p = front.rdropWhile p := by
  rw [List.rdropWhile, List.reverse_append, List.dropWhile_append_of_pos (by simpa using h)]
  rfl

/-- **Without the empty pieces at its end, a text is joined again without the separators at its
end.** -/
theorem intercalate_rdropWhile_pieces (sep : Char) (cs : List Char) :
    [sep].intercalate ((pieces sep cs).rdropWhile List.isEmpty) = cs.rdropWhile (· = sep) := by
  induction cs using List.reverseRecOn with
  | nil => simp [pieces, List.rdropWhile]
  | append_singleton cs c ih =>
    by_cases hc : c = sep
    · subst hc
      rw [pieces_concat_sep, List.rdropWhile_concat_pos _ _ _ (by rfl), ih,
        List.rdropWhile_concat_pos _ _ _ (by simp)]
    · obtain ⟨front, last, -, hconcat⟩ := exists_pieces_concat hc cs
      -- The last piece is not empty, so all of them are joined.
      have hall : (pieces sep (cs ++ [c])).rdropWhile List.isEmpty = pieces sep (cs ++ [c]) := by
        rw [hconcat, List.rdropWhile_concat_neg]
        simp
      rw [hall, pieces_eq_splitOn, List.intercalate_splitOn,
        List.rdropWhile_concat_neg _ _ _ (by simpa using hc)]

/-! ## The text before a separator -/

theorem toList_before (sep : Char) (s : String) :
    (before sep s).toList = s.toList.takeWhile (· ≠ sep) := by
  rw [before, String.toList_ofList, cut, List.span_eq_takeWhile_dropWhile]
  split <;> simp_all

theorem before_append {sep : Char} {front : String} (h : sep ∉ front.toList) (rest : String) :
    before sep (front ++ rest) = front ++ before sep rest := by
  rw [← String.toList_inj, toList_before, String.toList_append, String.toList_append,
    List.takeWhile_append_of_pos (forall_ne_of_not_mem h), toList_before]

end Text

namespace Path

/-! ## The core of a path -/

/-- The path with a slash in front, if it has none. -/
def rooted (path : String) : String :=
  if path.toList.head? = some '/' then path else "/" ++ path

/-- What counts of a path: no query, a slash in front, and no slashes at the end. -/
def core (path : String) : String :=
  String.ofList ((rooted (Text.before '?' path)).toList.rdropWhile (· = '/'))

theorem head?_rooted (path : String) : (rooted path).toList.head? = some '/' := by
  rw [rooted]
  split
  · assumption
  · simp

theorem rooted_rooted (path : String) : rooted (rooted path) = rooted path :=
  if_pos (head?_rooted path)

/-- A slash is put in front of a path in the same way with its query and without it. -/
theorem before_rooted (path : String) :
    Text.before '?' (rooted path) = rooted (Text.before '?' path) := by
  have hslash : '?' ∉ "/".toList := by decide
  have hhead : (Text.before '?' path).toList.head? = some '/' ↔ path.toList.head? = some '/' := by
    rw [Text.toList_before]
    cases path.toList with
    | nil => rfl
    | cons c cs =>
      by_cases hc : c = '?'
      · subst hc
        simp
      · simp [hc]
  rw [rooted, rooted, if_congr hhead rfl rfl]
  split
  · rfl
  · exact Text.before_append hslash path

theorem canonical_eq_rooted (path : String) : canonical path = rooted (Text.before '?' path) := by
  rw [← before_rooted, rooted]
  simp only [canonical]
  split
  · next hempty =>
    obtain rfl : path = "" := by simpa using hempty
    decide
  · split <;> rfl

theorem exists_canonical (path : String) : ∃ cs, (canonical path).toList = '/' :: cs := by
  obtain ⟨cs, hcs⟩ := List.head?_eq_some_iff.mp (head?_rooted (Text.before '?' path))
  exact ⟨cs, by rw [canonical_eq_rooted, hcs]⟩

/-- The segments are the pieces behind the first slash, without the empty ones at the end. -/
theorem segments_eq {path : String} {cs : List Char} (h : (canonical path).toList = '/' :: cs) :
    segments path = ((Text.pieces '/' cs).rdropWhile List.isEmpty).map String.ofList := by
  rw [segments, segmentsOf]
  split
  · next hslash =>
    rw [hslash] at h
    obtain rfl : cs = [] := by simpa using h.symm
    rfl
  · rw [h]
    rfl

theorem toList_ofSegments_segments {path : String} {cs : List Char}
    (h : (canonical path).toList = '/' :: cs) :
    (ofSegments (segments path)).toList = '/' :: cs.rdropWhile (· = '/') := by
  rw [toList_ofSegments, segments_eq h, List.map_map,
    ← Text.intercalate_rdropWhile_pieces '/' cs]
  simp [Function.comp_def]

/-- **The core of a path is read off its segments**: it is the path that they make, or nothing if
there are none. -/
theorem core_eq (path : String) :
    core path = if segments path = [] then "" else ofSegments (segments path) := by
  obtain ⟨cs, hcs⟩ := exists_canonical path
  have hjoined := toList_ofSegments_segments hcs
  have hnone : segments path = [] ↔ cs.rdropWhile (· = '/') = [] := by
    rw [← ofSegments_eq_slash_iff (isSegments_segments path), ← String.toList_inj, hjoined]
    simp
  rw [← String.toList_inj, core, ← canonical_eq_rooted, hcs, String.toList_ofList]
  split
  · next hsegments =>
    have hall := List.rdropWhile_eq_nil_iff.mp (hnone.mp hsegments)
    rw [List.rdropWhile_eq_nil_iff.mpr]
    · rfl
    · simpa using hall
  · next hsegments =>
    rw [hjoined]
    exact Text.rdropWhile_cons (mt hnone.mpr hsegments) '/'

/-- **The core of a path has its segments.** -/
theorem segments_core (path : String) : segments (core path) = segments path := by
  rw [core_eq]
  split
  · next hnone => rw [hnone]; decide
  · exact segments_ofSegments (isSegments_segments path)

/-- **Paths have the same segments if and only if they have the same core.** -/
theorem segments_eq_iff_core_eq {p q : String} : segments p = segments q ↔ core p = core q := by
  refine ⟨fun h => ?_, fun h => ?_⟩
  · rw [core_eq, core_eq, h]
  · rw [← segments_core p, h, segments_core]

/-! ## Targets -/

/-- A number of slashes. -/
def slashes (n : Nat) : String := String.ofList (List.replicate n '/')

/-- A path with a query behind it, if there is one. -/
def withQuery (path : String) (query : Option String) : String :=
  path ++ (query.map ("?" ++ ·)).getD ""

theorem before_withQuery {path : String} (h : '?' ∉ path.toList) (query : Option String) :
    Text.before '?' (withQuery path query) = path := by
  have hquery : Text.before '?' ((query.map ("?" ++ ·)).getD "") = "" := by
    cases query with
    | none => decide
    | some q =>
      rw [← String.toList_inj, Text.toList_before]
      simp
  rw [withQuery, Text.before_append h, hquery, String.append_empty]

/-- Slashes at the end of a path do not count. -/
theorem rdropWhile_rooted_slashes (path : String) (n : Nat) :
    (rooted (path ++ slashes n)).toList.rdropWhile (· = '/')
      = (rooted path).toList.rdropWhile (· = '/') := by
  have hslashes : ∀ c ∈ (slashes n).toList, decide (c = '/') = true := by
    simp [slashes]
  by_cases hempty : path = ""
  · subst hempty
    have hall : ∀ c ∈ (rooted ("" ++ slashes n)).toList, decide (c = '/') = true := by
      rw [String.empty_append, rooted]
      split
      · exact hslashes
      · rw [String.toList_append]
        simpa using hslashes
    rw [List.rdropWhile_eq_nil_iff.mpr hall]
    decide
  · have hhead : (path ++ slashes n).toList.head? = path.toList.head? := by
      rw [String.toList_append, List.head?_append_of_ne_nil]
      simpa using hempty
    rw [rooted, rooted, hhead]
    split
    · rw [String.toList_append, Text.rdropWhile_append hslashes]
    · rw [← String.append_assoc, String.toList_append, Text.rdropWhile_append hslashes]

/-- **Neither the query nor slashes before it count.** -/
theorem core_withQuery (target : String) (n : Nat) (query : Option String) :
    core (withQuery (Text.before '?' target ++ slashes n) query) = core target := by
  have hmark : '?' ∉ (Text.before '?' target ++ slashes n).toList := by
    rw [String.toList_append, List.mem_append]
    rintro (h | h)
    · exact Text.not_mem_before _ _ h
    · simp [slashes] at h
  rw [core, core, before_withQuery hmark, rdropWhile_rooted_slashes]

theorem core_rooted (target : String) : core (rooted target) = core target := by
  rw [core, core, before_rooted, rooted_rooted]

end Path

/-- Targets with the same core take the same route. -/
theorem RouteTable.resolve_of_core_eq {η : Type} (t : RouteTable η) (method : Method)
    {target target' : String} (h : Path.core target = Path.core target') :
    t.resolve method target = t.resolve method target' := by
  rw [resolve, resolve, Path.segments_eq_iff_core_eq.mpr h]

/-- **Paths are what their segments make, and their cores tell them apart.** The segments of a path
hold neither a slash nor a question mark, and the last of them is not empty; the lists of this kind
are those that are the segments of the path that they make. Two paths have the same segments if and
only if they are the same without query, with a slash in front and without slashes at the end. So a
target takes the same route, with the same handler and the same values captured, whatever query it
has, however many slashes stand before the query, and with or without a slash in front. A path that
is missing is the empty one. -/
theorem Path.segments_kernel :
    (∀ path : Option String, IsSegments (segments (path.getD "")))
    ∧ (∀ ss : List String, IsSegments ss ↔ segments (ofSegments ss) = ss)
    ∧ (∀ p q : Option String, segments (p.getD "") = segments (q.getD "")
      ↔ core (p.getD "") = core (q.getD ""))
    ∧ ∀ {η : Type} (t : RouteTable η) (method : Method) (target : String),
      (∀ n query, t.resolve method (withQuery (Text.before '?' target ++ slashes n) query)
        = t.resolve method target)
      ∧ t.resolve method (rooted target) = t.resolve method target := by
  refine ⟨fun path => isSegments_segments _, fun ss => ⟨segments_ofSegments, fun h => ?_⟩,
    fun p q => segments_eq_iff_core_eq, fun t method target => ⟨fun n query => ?_, ?_⟩⟩
  · exact h ▸ isSegments_segments (ofSegments ss)
  · exact t.resolve_of_core_eq method (core_withQuery target n query)
  · exact t.resolve_of_core_eq method (core_rooted target)

/-- Slashes in front, in between and at the end, and a query with slashes of its own. -/
example : Path.segments "//a//b/?q=/c/" = ["", "a", "", "b"] := by decide

end HttpKit
