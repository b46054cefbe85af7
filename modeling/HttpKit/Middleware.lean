import HttpKit.Handler

/-!
# Middleware

A middleware sees a request before the handler does and the reply after it. A chain is put around
a handler so that the middleware added first is the outermost. Main statements: `toList_append` and
`wrap_eq_foldr`, which say in which order a chain runs.
-/

namespace HttpKit

/-- A middleware. It is given the rest of the way as a handler, which it may call as it likes. -/
structure Middleware (ω : Type) where
  name : String
  apply : Request → Handler ω → Run ω Reply

namespace Middleware

variable {ω : Type}

/-- The middleware around a handler. -/
def around (m : Middleware ω) (next : Handler ω) : Handler ω := fun request =>
  m.apply request next

/-- A candidate for a chain, which must be callable. -/
def ofCandidate (c : Candidate (Middleware ω)) : Except NotCallable (Middleware ω) :=
  c.require "Middleware"

end Middleware

/-- Middleware in the order in which it was added. -/
inductive Chain (ω : Type) where
  | empty
  | append (before : Chain ω) (last : Middleware ω)

namespace Chain

variable {ω : Type}

instance : Inhabited (Chain ω) := ⟨empty⟩

/-- The middleware of a chain as it is linked, the last one added first. -/
def backwards : Chain ω → List (Middleware ω)
  | empty => []
  | append before last => last :: before.backwards

/-- The middleware of a chain, the first one added first. -/
def toList (c : Chain ω) : List (Middleware ω) := c.backwards.reverse

/-- How many there are. -/
def length : Chain ω → Nat
  | empty => 0
  | append before _ => before.length + 1

/-- Adds a candidate, if it is callable. -/
def append? (c : Chain ω) (last : Candidate (Middleware ω)) : Except NotCallable (Chain ω) :=
  (Middleware.ofCandidate last).map c.append

/-- The names of the middleware. -/
def names (c : Chain ω) : List String := c.toList.map Middleware.name

/-- The chain as it is shown in messages. -/
def display : Chain ω → String
  | empty => "None"
  | c => "MiddlewareChain([" ++ ", ".intercalate c.names ++ "])"

/-- The chain around a handler. The middleware added last is put around it first. A request goes
one call deeper for every middleware; how deep calls can go is left out. -/
def wrap (c : Chain ω) (h : Handler ω) : Handler ω :=
  c.toList.reverse.foldl (fun current m => m.around current) h

/-- The name of the handler that a chain makes of one with the given name. -/
def wrappedName (c : Chain ω) (name : String) : String :=
  match c.names.head? with
  | some first => first ++ "_wrapped"
  | none => name

@[simp]
theorem toList_append (c : Chain ω) (m : Middleware ω) :
    (c.append m).toList = c.toList ++ [m] := by
  simp [toList, backwards]

/-- The length is that of the list. -/
theorem length_toList (c : Chain ω) : c.toList.length = c.length := by
  induction c with
  | empty => rfl
  | append before last ih => simp [length, ih]

/-- The first middleware is the outermost. -/
theorem wrap_eq_foldr (c : Chain ω) (h : Handler ω) :
    c.wrap h = c.toList.foldr Middleware.around h := by
  rw [wrap, List.foldl_reverse]

end Chain

end HttpKit
