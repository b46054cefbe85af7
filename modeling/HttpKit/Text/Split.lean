/-!
# Cutting a text at a character
-/

namespace HttpKit.Text

/-- Puts a character in front of the first piece. -/
def extendHead (c : Char) : List (List Char) → List (List Char)
  | [] => [[c]]
  | piece :: rest => (c :: piece) :: rest

/-- The pieces between the separators: one more than there are separators. -/
def pieces (sep : Char) (cs : List Char) : List (List Char) :=
  cs.foldr (fun c acc => if c = sep then [] :: acc else extendHead c acc) [[]]

/-- The pieces of a text between the separators, empty ones included. -/
def splitOn (sep : Char) (s : String) : List String :=
  (pieces sep s.toList).map String.ofList

/-- What stands before the first separator, and what stands after it if there is one. -/
def cut (sep : Char) (cs : List Char) : List Char × Option (List Char) :=
  match cs.span (· ≠ sep) with
  | (before, []) => (before, none)
  | (before, _ :: after) => (before, some after)

/-- The text before the first separator. -/
def before (sep : Char) (s : String) : String := String.ofList (cut sep s.toList).1

/-- The text after the first separator, empty when there is none. -/
def after (sep : Char) (s : String) : String :=
  String.ofList ((cut sep s.toList).2.getD [])

end HttpKit.Text
