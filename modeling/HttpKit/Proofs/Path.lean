import HttpKit.Path
import HttpKit.Proofs.Text.Split
import Mathlib.Data.Fintype.EquivFin
import Mathlib.Data.List.Basic
import Mathlib.Data.List.Forall2

/-!
# Segments and the paths that they make

A path is cut into segments that hold neither a slash nor a question mark, and the last of which is
not empty (`isSegments_segments`). Every list of this kind is what its own path is cut into
(`segments_ofSegments`), so nothing is lost when segments are joined. A token is read back from the
segment that it was read from (`segment_of_ofSegment`).
-/

namespace HttpKit

namespace Text

/-! ## Pieces and what stands before a separator -/

theorem pieces_cons (sep c : Char) (cs : List Char) :
    pieces sep (c :: cs)
      = if c = sep then [] :: pieces sep cs else extendHead c (pieces sep cs) := rfl

/-- A piece holds characters of the text, but not the separator. -/
theorem mem_of_mem_pieces {sep : Char} : ∀ {cs piece : List Char}, piece ∈ pieces sep cs →
    ∀ c ∈ piece, c ≠ sep ∧ c ∈ cs
  | [], piece, h => by simp_all [pieces]
  | d :: cs, piece, h => by
    have ih : ∀ piece ∈ pieces sep cs, ∀ c ∈ piece, c ≠ sep ∧ c ∈ d :: cs :=
      fun piece h c hc => (mem_of_mem_pieces h c hc).imp_right (List.mem_cons_of_mem _)
    rw [pieces_cons] at h
    split at h
    · rcases List.mem_cons.mp h with rfl | h
      · simp
      · exact ih piece h
    · next hd =>
      cases hp : pieces sep cs with
      | nil => simp_all [extendHead]
      | cons first more =>
        rw [hp] at h ih
        intro c hc
        rcases List.mem_cons.mp h with rfl | h
        · rcases List.mem_cons.mp hc with rfl | hc
          · exact ⟨hd, List.mem_cons_self⟩
          · exact ih first List.mem_cons_self c hc
        · exact ih piece (List.mem_cons_of_mem _ h) c hc

theorem not_mem_before (sep : Char) (s : String) : sep ∉ (before sep s).toList := by
  have hcut : (cut sep s.toList).1 = s.toList.takeWhile (· ≠ sep) := by
    rw [cut, List.span_eq_takeWhile_dropWhile]
    split <;> simp_all
  rw [before, hcut, String.toList_ofList]
  intro h
  simpa using List.mem_takeWhile_imp h

theorem before_eq_self {sep : Char} {s : String} (h : sep ∉ s.toList) : before sep s = s := by
  rw [before, cut_of_not_mem h, String.ofList_toList]

end Text

namespace Path

/-! ## Segments -/

/-- Whether a text can stand between the slashes of a path. -/
def IsSegment (text : String) : Prop := '/' ∉ text.toList ∧ '?' ∉ text.toList

instance (text : String) : Decidable (IsSegment text) :=
  inferInstanceAs (Decidable ('/' ∉ text.toList ∧ '?' ∉ text.toList))

/-- Whether a path can have these segments. -/
structure IsSegments (segments : List String) : Prop where
  chars : ∀ s ∈ segments, IsSegment s
  last : segments.getLast? ≠ some ""

theorem isSegments_nil : IsSegments [] where
  chars := by simp
  last := by simp

theorem IsSegments.append {xs ys : List String} (hx : IsSegments xs) (hy : IsSegments ys) :
    IsSegments (xs ++ ys) where
  chars s hs := (List.mem_append.mp hs).elim (hx.chars s) (hy.chars s)
  last := by
    rw [List.getLast?_append]
    cases h : ys.getLast? with
    | none => exact hx.last
    | some s =>
      have hs : some s ≠ some "" := h ▸ hy.last
      simpa using hs

theorem not_mem_canonical (path : String) : '?' ∉ (canonical path).toList := by
  simp only [canonical]
  split
  · decide
  · split <;> exact Text.not_mem_before _ _

/-- **The segments of a path are segments.** -/
theorem isSegments_segments (path : String) : IsSegments (segments path) := by
  unfold segments segmentsOf
  split
  · exact isSegments_nil
  · refine ⟨?_, ?_⟩
    · intro s hs
      obtain ⟨piece, hpiece, rfl⟩ := List.mem_map.mp hs
      have hmem : piece ∈ Text.pieces '/' ((canonical path).toList.drop 1) := by
        have := (List.dropWhile_sublist _).mem (List.mem_reverse.mp hpiece)
        exact List.mem_reverse.mp this
      have hchars := Text.mem_of_mem_pieces hmem
      rw [IsSegment, String.toList_ofList]
      refine ⟨fun h => (hchars _ h).1 rfl, fun h => ?_⟩
      exact not_mem_canonical path (List.mem_of_mem_drop (hchars _ h).2)
    · rw [List.getLast?_map, List.getLast?_reverse]
      have hhead := List.head?_dropWhile_not List.isEmpty
        (Text.pieces '/' ((canonical path).toList.drop 1)).reverse
      intro h
      obtain ⟨piece, hpiece, hempty⟩ := Option.map_eq_some_iff.mp h
      rw [hpiece] at hhead
      rw [← String.ofList_nil, String.ofList_inj] at hempty
      simp [hempty] at hhead

theorem toList_ofSegments (ss : List String) :
    (ofSegments ss).toList = '/' :: ['/'].intercalate (ss.map String.toList) := by
  simp [ofSegments, String.toList_intercalate]

theorem mem_intercalate {sep c : Char} : ∀ {xs : List (List Char)},
    c ∈ [sep].intercalate xs → c = sep ∨ ∃ x ∈ xs, c ∈ x
  | [], h => by simp at h
  | [x], h => Or.inr ⟨x, List.mem_singleton_self x, by simpa using h⟩
  | x :: y :: xs, h => by
    rw [List.intercalate_cons_cons, List.mem_append, List.mem_append] at h
    rcases h with (h | h) | h
    · exact Or.inr ⟨x, List.mem_cons_self, h⟩
    · exact Or.inl (List.mem_singleton.mp h)
    · refine (mem_intercalate h).imp_right fun ⟨z, hz, hc⟩ => ⟨z, ?_, hc⟩
      exact List.mem_cons_of_mem _ hz

theorem not_mem_ofSegments {ss : List String} (h : IsSegments ss) :
    '?' ∉ (ofSegments ss).toList := by
  rw [toList_ofSegments]
  intro hmem
  rcases List.mem_cons.mp hmem with hslash | hmem
  · exact absurd hslash (by decide)
  rcases mem_intercalate hmem with hslash | ⟨x, hx, hc⟩
  · exact absurd hslash (by decide)
  · obtain ⟨s, hs, rfl⟩ := List.mem_map.mp hx
    exact (h.chars s hs).2 hc

theorem canonical_ofSegments {ss : List String} (h : IsSegments ss) :
    canonical (ofSegments ss) = ofSegments ss := by
  have hchars := toList_ofSegments ss
  simp only [canonical, hchars]
  simpa using Text.before_eq_self (not_mem_ofSegments h)

/-- A single empty segment aside, joining loses nothing: no segments are joined to a slash, and only
they. -/
theorem ofSegments_eq_slash_iff {ss : List String} (h : IsSegments ss) :
    ofSegments ss = "/" ↔ ss = [] := by
  refine ⟨fun heq => ?_, fun heq => heq ▸ rfl⟩
  have hchars := toList_ofSegments ss
  rw [heq] at hchars
  match ss, h with
  | [], _ => rfl
  | [s], h =>
    have hs : s.toList = [] := by simpa using hchars.symm
    exact absurd (by simpa using hs) h.last
  | s :: t :: rest, _ => simp at hchars

/-- **Segments are what their path is cut into.** -/
theorem segments_ofSegments {ss : List String} (h : IsSegments ss) :
    segments (ofSegments ss) = ss := by
  rw [segments, canonical_ofSegments h, segmentsOf]
  by_cases hss : ss = []
  · rw [if_pos ((ofSegments_eq_slash_iff h).mpr hss), hss]
  rw [if_neg (mt (ofSegments_eq_slash_iff h).mp hss)]
  have hpieces : Text.pieces '/' ((ofSegments ss).toList.drop 1) = ss.map String.toList := by
    rw [toList_ofSegments, List.drop_one, List.tail_cons, Text.pieces_eq_splitOn]
    refine List.splitOn_intercalate '/' (fun cs hcs => ?_) (by simpa using hss)
    obtain ⟨s, hs, rfl⟩ := List.mem_map.mp hcs
    exact (h.chars s hs).1
  -- The last segment is not empty, so none is dropped.
  have hlast : (ss.map String.toList).reverse.dropWhile List.isEmpty
      = (ss.map String.toList).reverse := by
    obtain ⟨front, last, rfl⟩ := (List.eq_nil_or_concat' ss).resolve_left hss
    have hne : last ≠ "" := by simpa using h.last
    simp [hne]
  simp only [hpieces, hlast, List.reverse_reverse, List.map_map]
  simp [Function.comp_def]

/-- There always is another segment. -/
theorem exists_fresh (texts : List String) :
    ∃ value, value ∉ texts ∧ value ≠ "" ∧ '/' ∉ value.toList ∧ '?' ∉ value.toList := by
  obtain ⟨n, hn⟩ := Infinite.exists_notMem_finset (0 :: texts.map String.length).toFinset
  have hlength : (String.ofList (List.replicate n 'a')).length = n := by simp
  refine ⟨String.ofList (List.replicate n 'a'), fun h => ?_, fun h => ?_, ?_, ?_⟩
  · have hmem := List.mem_map_of_mem (f := String.length) h
    rw [hlength] at hmem
    simp [hmem] at hn
  · rw [h] at hlength
    simp [← hlength] at hn
  · simp
  · simp

end Path

namespace Token

/-! ## Tokens and the segments that they are written as -/

/-- Whether a segment is in braces with something between them. In a template such a segment
declares a variable, or is refused. -/
def IsBraced (segment : String) : Prop :=
  ∃ inner : List Char, inner ≠ [] ∧ segment.toList = '\x7b' :: (inner ++ ['\x7d'])

theorem isBraced_iff (s : String) : IsBraced s
    ↔ 2 < s.toList.length ∧ s.toList.head? = some '\x7b' ∧ s.toList.getLast? = some '\x7d' := by
  constructor
  · rintro ⟨inner, hne, hs⟩
    have := List.length_pos_of_ne_nil hne
    rw [hs]
    refine ⟨?_, rfl, by rw [← List.cons_append, List.getLast?_concat]⟩
    simp only [List.length_cons, List.length_append, List.length_nil]
    omega
  · rintro ⟨hlength, hfirst, hlast⟩
    obtain ⟨more, hmore⟩ := List.head?_eq_some_iff.mp hfirst
    rw [hmore] at hlength hlast
    have hne : more ≠ [] := by
      rintro rfl
      simp at hlength
    rw [List.getLast?_cons_of_ne_nil hne] at hlast
    have hsplit := List.dropLast_append_getLast? _ hlast
    refine ⟨more.dropLast, ?_, by rw [hmore, hsplit]⟩
    intro hnil
    rw [hnil] at hsplit
    simp [← hsplit] at hlength

/-- A segment in braces is read as the variable between them, unless it is blank. -/
theorem ofSegment_of_inner {s : String} {inner : List Char} (hne : inner ≠ [])
    (hs : s.toList = '\x7b' :: (inner ++ ['\x7d'])) :
    ofSegment s = if inner.all Text.isBlank then .error ⟨s⟩
      else .ok (.capture (String.ofList inner)) := by
  simp only [ofSegment]
  rw [if_pos ((isBraced_iff s).mp ⟨inner, hne, hs⟩)]
  simp [hs]

theorem ofSegment_of_not_isBraced {s : String} (h : ¬IsBraced s) :
    ofSegment s = .ok (.literal s) := by
  simp only [ofSegment]
  exact if_neg (mt (isBraced_iff s).mpr h)

/-- **The segments that stand for themselves are those that are not in braces.** -/
theorem ofSegment_eq_literal_iff {s : String} :
    ofSegment s = .ok (.literal s) ↔ ¬IsBraced s := by
  refine ⟨?_, ofSegment_of_not_isBraced⟩
  rintro h ⟨inner, hne, hs⟩
  rw [ofSegment_of_inner hne hs] at h
  split at h <;> cases h

/-- **A token is written as the segment that it was read from.** -/
theorem segment_of_ofSegment {s : String} {t : Token} (h : ofSegment s = .ok t) :
    t.segment = s := by
  by_cases hbraced : IsBraced s
  · obtain ⟨inner, hne, hs⟩ := hbraced
    rw [ofSegment_of_inner hne hs] at h
    split at h
    · cases h
    · cases h
      simp [segment, ← String.toList_inj, hs]
  · rw [ofSegment_of_not_isBraced hbraced] at h
    cases h
    rfl

/-- Segments are read one by one. -/
theorem mapM_ofSegment_eq_ok_iff {ss : List String} {ts : List Token} :
    ss.mapM ofSegment = .ok ts ↔ List.Forall₂ (fun s t => ofSegment s = .ok t) ss ts := by
  induction ss generalizing ts with
  | nil => cases ts <;> simp [pure, Except.pure]
  | cons s ss ih =>
    rw [List.mapM_cons]
    cases hs : ofSegment s with
    | error e => cases ts <;> simp [bind, Except.bind, hs]
    | ok t =>
      cases hss : ss.mapM ofSegment with
      | error e => cases ts <;> simp [bind, Except.bind, hs, ← ih, hss]
      | ok more => cases ts <;> simp [bind, Except.bind, pure, Except.pure, hs, ← ih, hss]

theorem map_segment_of_mapM {ss : List String} {ts : List Token}
    (h : ss.mapM ofSegment = .ok ts) : ts.map segment = ss := by
  have hread := mapM_ofSegment_eq_ok_iff.mp h
  clear h
  induction hread with
  | nil => rfl
  | cons h _ ih => rw [List.map_cons, segment_of_ofSegment h, ih]

/-- Tokens that are read back one by one are read back together. -/
theorem mapM_segment {ts : List Token} (h : ∀ t ∈ ts, ofSegment t.segment = .ok t) :
    (ts.map segment).mapM ofSegment = .ok ts := by
  rw [mapM_ofSegment_eq_ok_iff, List.forall₂_map_left_iff, List.forall₂_same]
  exact h

/-- Tokens that were read are read back. -/
theorem ofSegment_segment_of_mapM {ss : List String} {ts : List Token}
    (h : ss.mapM ofSegment = .ok ts) : ∀ t ∈ ts, ofSegment t.segment = .ok t := by
  have hss := map_segment_of_mapM h
  rw [← hss, mapM_ofSegment_eq_ok_iff, List.forall₂_map_left_iff, List.forall₂_same] at h
  exact h

/-- Segments that stand for themselves are read as texts, whatever comes after them. -/
theorem mapM_ofSegment_append {xs : List String} (h : ∀ s ∈ xs, ¬IsBraced s) (ys : List String) :
    (xs ++ ys).mapM ofSegment = (ys.mapM ofSegment).map (xs.map .literal ++ ·) := by
  induction xs with
  | nil => cases hys : ys.mapM ofSegment <;> simp [Except.map, hys]
  | cons s xs ih =>
    rw [List.cons_append, List.mapM_cons, ih fun s hs => h s (List.mem_cons_of_mem _ hs),
      ofSegment_of_not_isBraced (h s List.mem_cons_self)]
    cases ys.mapM ofSegment <;> rfl

/-- Segments that were read as texts stand for themselves. -/
theorem not_isBraced_of_mapM {xs ys : List String} {ts : List Token}
    (h : (xs ++ ys).mapM ofSegment = .ok (xs.map .literal ++ ts)) : ∀ s ∈ xs, ¬IsBraced s := by
  rw [mapM_ofSegment_eq_ok_iff] at h
  induction xs with
  | nil => simp
  | cons s xs ih =>
    obtain ⟨hs, hmore⟩ := List.forall₂_cons.mp h
    intro s' hs'
    rcases List.mem_cons.mp hs' with rfl | hs'
    · exact ofSegment_eq_literal_iff.mp hs
    · exact ih hmore s' hs'

end Token

end HttpKit
