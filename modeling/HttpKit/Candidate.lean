import HttpKit.Json

/-!
# What is handed over where a function is expected
-/

namespace HttpKit

/-- A function, or a datum that cannot be called. -/
inductive Candidate (α : Type) where
  | function (f : α)
  | datum (value : Json)

/-- A datum where a function was required. -/
structure NotCallable where
  /-- What the function was required as. -/
  role : String
  value : Json

/-- What is said about it. -/
def NotCallable.message (e : NotCallable) : String :=
  s!"{e.role} must be callable, got {e.value.display}"

/-- The function, where one is required. -/
def Candidate.require {α : Type} (role : String) : Candidate α → Except NotCallable α
  | function f => .ok f
  | datum value => .error ⟨role, value⟩

end HttpKit
