import HttpKit.Candidate
import HttpKit.Log
import HttpKit.Request
import HttpKit.Response

/-!
# Handlers

A handler takes a request and runs: it reads the clock, writes to the access log, keeps a state of
its own, and ends with a reply or a fault. What it did before a fault stays done.
-/

namespace HttpKit

/-- What ends a handler without a reply. -/
inductive Fault where
  /-- Raised by an application, with the kind and the text it chose. -/
  | raised (kind text : String)
  /-- A member was asked of a datum that has none. -/
  | missingMember (value : Json) (member : String)
  /-- A datum was called. -/
  | notCallable (value : Json)

/-- The name of the fault's kind. -/
def Fault.kind : Fault → String
  | raised kind _ => kind
  | missingMember _ _ => "AttributeError"
  | notCallable _ => "TypeError"

/-- The fault's text. -/
def Fault.text : Fault → String
  | raised _ text => text
  | missingMember value member => s!"'{value.kindName}' object has no attribute '{member}'"
  | notCallable value => s!"'{value.kindName}' object is not callable"

/-- What a handler ends with. -/
inductive Reply where
  | response (r : Response)
  /-- Nothing: an empty response is sent. -/
  | nothing
  /-- A datum that is no response. Whoever needs a response of it faults. -/
  | datum (value : Json)

/-- The response of a reply, where its `member` is needed. -/
def Reply.demand (member : String) : Reply → Except Fault Response
  | response r => .ok r
  | nothing => .error (.missingMember .null member)
  | datum value => .error (.missingMember value member)

/-- The reply with a header set. -/
def Reply.withHeader (reply : Reply) (name value : RawText) : Except Fault Reply := do
  let r ← reply.demand "with_header"
  return .response (r.withHeader name value)

/-- What the clock will say: an identifier for every request to be logged, a reading in seconds
for every glance at it, and the time of day. -/
structure Clock where
  ids : List String
  ticks : List Float
  stamp : String

/-- What handlers read and write: the clock, the access log so far, and the application's own
state. -/
structure Journal (ω : Type) where
  clock : Clock
  log : List LogEntry
  state : ω

/-- A run that may end in a fault. The journal survives the fault. -/
abbrev Run (ω α : Type) := ExceptT Fault (StateM (Journal ω)) α

namespace Run

variable {ω : Type}

/-- The next identifier: the first eight characters of what the clock has, zeros when it has no
more. -/
def nextId : Run ω String := do
  let j ← get
  match j.clock.ids with
  | [] => return "00000000"
  | id :: rest =>
    set { j with clock := { j.clock with ids := rest } }
    return String.ofList (id.toList.take 8)

/-- The next reading of the clock in seconds, zero when it has no more. -/
def tick : Run ω Float := do
  let j ← get
  match j.clock.ticks with
  | [] => return 0.0
  | t :: rest =>
    set { j with clock := { j.clock with ticks := rest } }
    return t

/-- Writes to the access log, which keeps entries of any severity above zero. -/
def log (level : Level) (text : String) : Run ω Unit :=
  modify fun j => if 0 < level then { j with log := j.log ++ [⟨level, text⟩] } else j

/-- Runs and says how it ended. The fault ends here. -/
def attempt {α : Type} (run : Run ω α) : Run ω (Except Fault α) := ExceptT.lift run.run

/-- Ends as an outcome does. -/
def ofExcept {α : Type} (outcome : Except Fault α) : Run ω α := ExceptT.mk (pure outcome)

/-- Changes the application's own state. -/
def update (f : ω → ω) : Run ω Unit := modify fun j => { j with state := f j.state }

end Run

/-- A handler. -/
abbrev Handler (ω : Type) := Request → Run ω Reply

namespace Handler

variable {ω : Type}

/-- The handler that a candidate is: a datum faults when it is called. -/
def ofCandidate : Candidate (Handler ω) → Handler ω
  | .function h => h
  | .datum value => fun _ => throw (.notCallable value)

/-- Calls a handler so that there always is a response: a fault becomes a 500 that says nothing
about it, and no reply an empty 204. A datum that is no response stays one. -/
def invoke (h : Handler ω) (request : Request) : StateM (Journal ω) Reply := do
  match ← (h request).run with
  | .error _ => return .response (.text 500 "Internal Server Error")
  | .ok .nothing => return .response (.text 204 "")
  | .ok reply => return reply

end Handler

end HttpKit
