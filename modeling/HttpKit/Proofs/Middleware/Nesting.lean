import HttpKit.Middleware
import HttpKit.Proofs.Versions

/-!
# A chain around a handler is nested application

A chain is linked from the middleware that was added last, turned around, and put around a handler
from its end. Without links it is a list (`Chain.Represents`), and around a handler every middleware
is given what comes after it (`nest`). This holds of all chains that are made one of another
(`represents_listed`), and a chain that follows another one goes inside (`wrap_extend`).
-/

namespace HttpKit

variable {ω : Type}

/-- Middleware around a handler. Each one is given the rest of the way. -/
def nest : List (Middleware ω) → Handler ω → Handler ω
  | [], h => h
  | m :: rest, h => fun request => m.apply request (nest rest h)

theorem nest_append (before after : List (Middleware ω)) (h : Handler ω) :
    nest (before ++ after) h = nest before (nest after h) := by
  induction before with
  | nil => rfl
  | cons m before ih => rw [List.cons_append, nest, nest, ih]

namespace Chain

theorem wrap_eq_nest (c : Chain ω) (h : Handler ω) : c.wrap h = nest c.toList h := by
  rw [wrap_eq_foldr]
  induction c.toList with
  | nil => rfl
  | cons m rest ih =>
    rw [List.foldr_cons, ih]
    rfl

/-! ## Longer chains -/

/-- The chain with more middleware added, one after the other. -/
def extend (c : Chain ω) (more : List (Middleware ω)) : Chain ω := more.foldl append c

@[simp]
theorem toList_extend (c : Chain ω) (more : List (Middleware ω)) :
    (c.extend more).toList = c.toList ++ more := by
  induction more generalizing c with
  | nil => exact (List.append_nil _).symm
  | cons m more ih =>
    rw [extend, List.foldl_cons, ← extend, ih, toList_append, List.append_assoc,
      List.singleton_append]

theorem wrap_extend_empty (ms : List (Middleware ω)) (h : Handler ω) :
    (empty.extend ms).wrap h = nest ms h := by
  rw [wrap_eq_nest, toList_extend]
  rfl

/-- **A chain that follows another one goes around the handler first.** -/
theorem wrap_extend (c d : Chain ω) (h : Handler ω) :
    (c.extend d.toList).wrap h = c.wrap (d.wrap h) := by
  rw [wrap_eq_nest, wrap_eq_nest, wrap_eq_nest, toList_extend, nest_append]

/-! ## Chains made one of another -/

/-- All chains, each made of one that there is by adding a candidate to it. -/
def versions (steps : List (Nat × Candidate (Middleware ω))) : List (Chain ω) :=
  Versions.history (fun c candidate => (c.append? candidate).toOption) .empty steps

/-- A list with a candidate added, unless it is a datum. -/
def listed (ms : List (Middleware ω)) : Candidate (Middleware ω) → Option (List (Middleware ω))
  | .function m => some (ms ++ [m])
  | .datum _ => none

/-- The lists that the chains stand for. -/
def listedVersions (steps : List (Nat × Candidate (Middleware ω))) : List (List (Middleware ω)) :=
  Versions.history listed [] steps

/-- Whether a chain shows the middleware of a list, in its order, and is nested application of it
around every handler. -/
structure Represents (c : Chain ω) (ms : List (Middleware ω)) : Prop where
  toList : c.toList = ms
  length : c.length = ms.length
  wrap : ∀ h, c.wrap h = nest ms h

theorem represents_toList (c : Chain ω) : c.Represents c.toList where
  toList := rfl
  length := c.length_toList.symm
  wrap := c.wrap_eq_nest

theorem Represents.append? {c : Chain ω} {ms : List (Middleware ω)} (h : c.Represents ms)
    (candidate : Candidate (Middleware ω)) :
    Option.Rel Represents (c.append? candidate).toOption (listed ms candidate) := by
  cases candidate with
  | function m =>
    have hadded : (c.append m).Represents (ms ++ [m]) := by
      rw [← h.toList, ← toList_append]
      exact represents_toList _
    exact .some hadded
  | datum value => exact .none

/-- **Chains stand for lists along every tree of chains.** -/
theorem represents_listed (steps : List (Nat × Candidate (Middleware ω))) :
    List.Forall₂ Represents (versions steps) (listedVersions steps) :=
  Versions.forall₂_history (represents_toList .empty) (fun h => h.append?) steps

end Chain

end HttpKit
