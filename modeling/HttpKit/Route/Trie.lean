import HttpKit.Assoc
import HttpKit.Path

/-!
# Route trees

One level per segment. A node holds what is registered at its path, the children for literal
segments in the order in which they came up, and at most one child for a variable. Matching takes
the literal child where there is one and never comes back from it.
-/

namespace HttpKit.Route

mutual

/-- A level of a route tree. -/
inductive Node (α : Type) where
  | mk (entry : Option α) (literals : Branches α) (slot : Slot α)

/-- Children for literal segments, in order. -/
inductive Branches (α : Type) where
  | nil
  | cons (text : String) (child : Node α) (rest : Branches α)

/-- The child for a variable, with the name that the variable has at present. -/
inductive Slot (α : Type) where
  | none
  | some (name : String) (child : Node α)

end

variable {α : Type}

/-- A level without anything. -/
def Node.empty : Node α := ⟨none, .nil, .none⟩

instance : Inhabited (Node α) := ⟨.empty⟩

/-- What is registered at the node itself. -/
def Node.entry : Node α → Option α
  | ⟨entry, _, _⟩ => entry

/-- The children for literal segments. -/
def Node.literals : Node α → Branches α
  | ⟨_, literals, _⟩ => literals

/-- The child for a variable. -/
def Node.slot : Node α → Slot α
  | ⟨_, _, slot⟩ => slot

/-- The child for a text. -/
def Branches.get? (text : String) : Branches α → Option (Node α)
  | nil => none
  | cons t child rest => if t = text then some child else rest.get? text

/-- Changes the child for a text, an empty one at the end if there was none. -/
def Branches.update (text : String) (f : Node α → Node α) : Branches α → Branches α
  | nil => cons text (f .empty) nil
  | cons t child rest =>
    if t = text then cons t (f child) rest else cons t child (rest.update text f)

/-- Changes the child for a variable and gives it its new name. -/
def Slot.update (name : String) (f : Node α → Node α) : Slot α → Slot α
  | none => some name (f .empty)
  | some _ child => some name (f child)

/-- Registers an entry below a node. The variables on the way take the names of this template. -/
def Node.insert (entry : α) : List Token → Node α → Node α
  | [], ⟨_, literals, slot⟩ => ⟨some entry, literals, slot⟩
  | .literal text :: rest, ⟨e, literals, slot⟩ =>
    ⟨e, literals.update text (Node.insert entry rest), slot⟩
  | .capture name :: rest, ⟨e, literals, slot⟩ =>
    ⟨e, literals, slot.update name (Node.insert entry rest)⟩

/-- What a path leads to. -/
structure Match (α : Type) where
  entry : α
  captured : List (String × String)

/-- Follows the segments of a path. A name that is captured twice keeps the last segment. -/
def Node.follow (captured : List (String × String)) : List String → Node α → Option (Match α)
  | [], ⟨entry, _, _⟩ => entry.map (⟨·, captured⟩)
  | segment :: rest, ⟨_, literals, slot⟩ =>
    match literals.get? segment, slot with
    | some child, _ => child.follow captured rest
    | none, .some name child => child.follow (Assoc.insert name segment captured) rest
    | none, .none => none

/-- What the segments of a path lead to, with the segments that were captured. -/
def Node.find? (segments : List String) (root : Node α) : Option (Match α) :=
  root.follow [] segments

mutual

/-- Every entry at or below a node with the way to it: the node's own first, then those below the
literal children in order, then those below the child for a variable. -/
def Node.list : Node α → List (List Token × α)
  | ⟨entry, literals, slot⟩ => entry.toList.map ([], ·) ++ (literals.list ++ slot.list)

def Branches.list : Branches α → List (List Token × α)
  | .nil => []
  | .cons text child rest =>
    (child.list.map fun (tokens, entry) => (.literal text :: tokens, entry)) ++ rest.list

def Slot.list : Slot α → List (List Token × α)
  | .none => []
  | .some name child => child.list.map fun (tokens, entry) => (.capture name :: tokens, entry)

end

end HttpKit.Route
