import Mathlib.Data.List.Forall2
import Mathlib.Data.List.Infix

/-!
# Versions of a value

A value that is never changed in place has versions: each one is made of an earlier one, of any, and
stays as it is when others are made of it. A history is the list of all versions, and what each of
them is made of is told by its place.

Two ways of making versions that agree step by step agree on every history (`forall₂_history`), and
a history only grows at its end (`history_prefix`).
-/

namespace HttpKit.Versions

variable {α α' β : Type}

/-- Makes a version of the one at a place. Nothing is made where there is none, or where the change
is refused. -/
def extend (make : α → β → Option α) (versions : List α) (step : Nat × β) : List α :=
  match versions[step.1]?.bind (make · step.2) with
  | some next => versions ++ [next]
  | none => versions

/-- All versions, the first one first. -/
def history (make : α → β → Option α) (first : α) (steps : List (Nat × β)) : List α :=
  steps.foldl (extend make) [first]

variable {make : α → β → Option α} {make' : α' → β → Option α'}

theorem history_concat (first : α) (steps : List (Nat × β)) (step : Nat × β) :
    history make first (steps ++ [step]) = extend make (history make first steps) step := by
  rw [history, List.foldl_append]
  rfl

theorem prefix_extend (versions : List α) (step : Nat × β) :
    versions <+: extend make versions step := by
  unfold extend
  split
  · exact List.prefix_append _ _
  · exact List.prefix_rfl

/-- **Versions stay as they are, whatever is made of them later.** -/
theorem history_prefix (first : α) (steps more : List (Nat × β)) :
    history make first steps <+: history make first (steps ++ more) := by
  induction more using List.reverseRecOn with
  | nil => rw [List.append_nil]
  | append_singleton more step ih =>
    rw [← List.append_assoc, history_concat]
    exact ih.trans (prefix_extend _ step)

/-- **What is kept by every change holds of all versions and their counterparts.** -/
theorem forall₂_history {R : α → α' → Prop} {first : α} {first' : α'} (h : R first first')
    (hmake : ∀ {a a'}, R a a' → ∀ change,
      Option.Rel R (make a change) (make' a' change)) (steps : List (Nat × β)) :
    List.Forall₂ R (history make first steps) (history make' first' steps) := by
  induction steps using List.reverseRecOn with
  | nil => exact .cons h .nil
  | append_singleton steps step ih =>
    rw [history_concat, history_concat]
    generalize history make first steps = versions at ih
    generalize history make' first' steps = versions' at ih
    have hmade : Option.Rel R (versions[step.1]?.bind (make · step.2))
        (versions'[step.1]?.bind (make' · step.2)) := by
      cases hv : versions[step.1]? with
      | none =>
        have hv' : versions'[step.1]? = none := by
          rw [List.getElem?_eq_none_iff] at hv ⊢
          rwa [← ih.length_eq]
        rw [hv']
        exact .none
      | some a =>
        obtain ⟨hlt, ha⟩ := List.getElem?_eq_some_iff.mp hv
        have hlt' : step.1 < versions'.length := ih.length_eq ▸ hlt
        rw [List.getElem?_eq_getElem hlt']
        exact hmake (ha ▸ ih.get hlt hlt') step.2
    unfold extend
    revert hmade
    generalize versions[step.1]?.bind (make · step.2) = made
    generalize versions'[step.1]?.bind (make' · step.2) = made'
    rintro (hnext | _)
    · exact List.rel_append ih (.cons hnext .nil)
    · exact ih

end HttpKit.Versions
