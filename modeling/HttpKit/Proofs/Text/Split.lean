import HttpKit.Text.Blank
import HttpKit.Text.Split
import Mathlib.Data.List.DropRight
import Mathlib.Data.List.TakeDrop
import Mathlib.Data.List.TakeWhile

/-!
# Cutting and joining

Cutting at every separator is `List.splitOn`, and cutting at the first one undoes putting it
between two parts the first of which does not hold it.
-/

namespace HttpKit.Text

/-! ## Every separator -/

/-- The pieces of a text are those of the standard library. -/
theorem pieces_eq_splitOn (sep : Char) : ∀ (cs : List Char), pieces sep cs = cs.splitOn sep
  | [] => rfl
  | c :: cs => by
    have ih : cs.foldr (fun c acc => if c = sep then [] :: acc else extendHead c acc) [[]]
        = cs.splitOn sep := pieces_eq_splitOn sep cs
    rw [pieces, List.foldr_cons, ih, List.splitOn_cons_eq_if_modifyHead]
    by_cases hc : c = sep
    · simp [hc]
    · cases h : cs.splitOn sep with
      | nil => exact absurd h (List.splitOn_ne_nil sep cs)
      | cons piece rest => simp [hc, extendHead]

theorem splitOn_eq (sep : Char) (s : String) :
    splitOn sep s = (s.toList.splitOn sep).map String.ofList := by
  rw [splitOn, pieces_eq_splitOn]

/-! ## The first separator -/

theorem forall_ne_of_not_mem {sep : Char} {cs : List Char} (h : sep ∉ cs) :
    ∀ c ∈ cs, decide (c ≠ sep) = true := by
  intro c hc
  simpa using fun e : c = sep => h (e ▸ hc)

theorem cut_append_cons {sep : Char} {before : List Char} (h : sep ∉ before)
    (after : List Char) : cut sep (before ++ sep :: after) = (before, some after) := by
  have hb := forall_ne_of_not_mem h
  have hspan : (before ++ sep :: after).span (· ≠ sep) = (before, sep :: after) := by
    rw [List.span_eq_takeWhile_dropWhile, List.takeWhile_append_of_pos hb,
      List.dropWhile_append_of_pos hb]
    simp
  simp only [cut, hspan]

theorem cut_of_not_mem {sep : Char} {cs : List Char} (h : sep ∉ cs) :
    cut sep cs = (cs, none) := by
  have hb := forall_ne_of_not_mem h
  have hspan : cs.span (· ≠ sep) = (cs, []) := by
    rw [List.span_eq_takeWhile_dropWhile, List.takeWhile_eq_self_iff.mpr hb,
      List.dropWhile_eq_nil_iff.mpr hb]
  simp only [cut, hspan]

/-! ## Trimming -/

/-- A text without blanks is trimmed. -/
theorem trimBy_eq_self {p : Char → Bool} {cs : List Char} (h : ∀ c ∈ cs, p c = false) :
    trimBy p cs = cs := by
  have hfront : cs.dropWhile p = cs := by
    rw [List.dropWhile_eq_self_iff]
    intro hl
    rw [h _ (List.getElem_mem hl)]
    exact Bool.false_ne_true
  have hback : cs.reverse.dropWhile p = cs.reverse := by
    rw [List.dropWhile_eq_self_iff]
    intro hl
    have hlast := h _ (List.mem_reverse.mp (List.getElem_mem hl))
    rw [hlast]
    exact Bool.false_ne_true
  rw [trimBy, hfront, hback, List.reverse_reverse]

/-- A blank in front of a trimmed text is trimmed away. -/
theorem trimBy_cons {p : Char → Bool} {c : Char} (hc : p c = true) (cs : List Char) :
    trimBy p (c :: cs) = trimBy p cs := by
  simp [trimBy, hc]

theorem trimBy_toList (s : String) : String.ofList (trimBy isBlank s.toList) = trim s := rfl

theorem trimBy_eq_rdropWhile (p : Char → Bool) (cs : List Char) :
    trimBy p cs = (cs.dropWhile p).rdropWhile p := rfl

theorem dropWhile_congr {p q : Char → Bool} {cs : List Char} (h : ∀ c ∈ cs, p c = q c) :
    cs.dropWhile p = cs.dropWhile q := by
  induction cs with
  | nil => rfl
  | cons c cs ih =>
    rw [List.dropWhile_cons, List.dropWhile_cons, h c List.mem_cons_self,
      ih fun d hd => h d (List.mem_cons_of_mem _ hd)]

/-- What is trimmed depends on the characters of the text alone. -/
theorem trimBy_congr {p q : Char → Bool} {cs : List Char} (h : ∀ c ∈ cs, p c = q c) :
    trimBy p cs = trimBy q cs := by
  have hback : ∀ c ∈ (cs.dropWhile q).reverse, p c = q c := fun c hc =>
    h c ((List.dropWhile_suffix q).subset (List.mem_reverse.mp hc))
  rw [trimBy, trimBy, dropWhile_congr h, dropWhile_congr hback]

theorem trimBy_map {α β : Type} (p : β → Bool) (f : α → β) (cs : List α) :
    trimBy p (cs.map f) = (trimBy (p ∘ f) cs).map f := by
  rw [trimBy, trimBy, List.dropWhile_map, ← List.map_reverse, List.dropWhile_map, List.map_reverse]

theorem mem_dropWhile_of_not {p : Char → Bool} {cs : List Char} {c : Char} (hc : c ∈ cs)
    (h : p c = false) : c ∈ cs.dropWhile p := by
  rw [← List.takeWhile_append_dropWhile (p := p) (l := cs), List.mem_append] at hc
  refine hc.resolve_left fun hfront => ?_
  exact Bool.false_ne_true (h.symm.trans (List.mem_takeWhile_imp hfront))

/-- A character that is not to be trimmed stays. -/
theorem mem_trimBy_of_not {p : Char → Bool} {cs : List Char} {c : Char} (hc : c ∈ cs)
    (h : p c = false) : c ∈ trimBy p cs :=
  List.mem_reverse.mpr
    (mem_dropWhile_of_not (List.mem_reverse.mpr (mem_dropWhile_of_not hc h)) h)

/-- Trimming adds no character. -/
theorem mem_of_mem_trimBy {p : Char → Bool} {cs : List Char} {c : Char} (h : c ∈ trimBy p cs) :
    c ∈ cs := by
  rw [trimBy_eq_rdropWhile] at h
  exact (List.dropWhile_suffix p).subset ((List.rdropWhile_prefix p _).subset h)

theorem mem_of_mem_trim {s : String} {c : Char} (h : c ∈ (trim s).toList) : c ∈ s.toList := by
  rw [trim, String.toList_ofList] at h
  exact mem_of_mem_trimBy h

/-- Trimming removes blanks alone. -/
theorem mem_trim {s : String} {c : Char} (hc : c ∈ s.toList) (h : isBlank c = false) :
    c ∈ (trim s).toList := by
  rw [trim, String.toList_ofList]
  exact mem_trimBy_of_not hc h

/-- A text that was trimmed is trimmed. -/
theorem trimBy_trimBy (p : Char → Bool) (cs : List Char) :
    trimBy p (trimBy p cs) = trimBy p cs := by
  have hfront : (trimBy p cs).dropWhile p = trimBy p cs := by
    rw [List.dropWhile_eq_self_iff]
    intro hl
    have hpre : trimBy p cs <+: cs.dropWhile p := List.rdropWhile_prefix p _
    rw [hpre.getElem hl]
    exact List.dropWhile_get_zero_not p cs _
  rw [trimBy_eq_rdropWhile p (trimBy p cs), hfront]
  exact List.rdropWhile_idempotent p _

theorem trim_ofList_trimBy (cs : List Char) :
    trim (String.ofList (trimBy isBlank cs)) = String.ofList (trimBy isBlank cs) := by
  rw [trim, String.toList_ofList, trimBy_trimBy]

end HttpKit.Text
