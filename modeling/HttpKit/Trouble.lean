/-!
# Trouble outside the program
-/

namespace HttpKit

/-- A failure of the system or of what runs the program's work. -/
inductive Trouble where
  /-- The operating system refused. -/
  | system (text : String)
  /-- There is nothing to run work on. -/
  | runtime (text : String)
  | other (kind text : String)
  deriving DecidableEq, Repr

namespace Trouble

/-- Whether the operating system refused. -/
def isSystem : Trouble → Bool
  | system _ => true
  | _ => false

/-- The name of its kind. -/
def kind : Trouble → String
  | system _ => "OSError"
  | runtime _ => "RuntimeError"
  | other kind _ => kind

/-- What is said about it. -/
def text : Trouble → String
  | system text => text
  | runtime text => text
  | other _ text => text

/-- The refusal of an address that another listener has. -/
def addressInUse : Trouble := .system "[Errno 98] Address already in use"

end Trouble

end HttpKit
