import HttpKit.Connection
import HttpKit.Middleware
import HttpKit.Router
import HttpKit.Settings

/-!
# Servers

What a server is made of and how it is configured. Its application is put together when it starts,
and it is configured only while it is stopped; routes may be added to its own router at any time.
-/

namespace HttpKit

/-- Where a server is between starting and stopping. -/
inductive ServerState where
  | stopped
  | starting
  | running
  | stopping
  deriving DecidableEq, Repr

/-- The state's name. -/
def ServerState.name : ServerState → String
  | stopped => "stopped"
  | starting => "starting"
  | running => "running"
  | stopping => "stopping"

/-- What becomes of work that is handed over. -/
inductive Scheduling where
  /-- It is done some time after. -/
  | later
  /-- It is done before anything else. -/
  | atOnce
  /-- It is not taken. -/
  | rejected
  /-- Handing it over fails in another way. -/
  | broken (trouble : Trouble)

/-- Who does the work on connections: what becomes of the work on the n-th one. -/
abbrev Executor := Nat → Scheduling

namespace Executor

/-- Every connection has a worker of its own. -/
def workers : Executor := fun _ => .later

/-- Work is done where it is handed over. -/
def inline : Executor := fun _ => .atOnce

/-- No work is taken. -/
def rejecting : Executor := fun _ => .rejected

end Executor

/-- What answers requests: a chain around the server's own router or around a handler that was
given. -/
structure Application (ω : Type) where
  chain : Chain ω
  /-- `none` for the server's own router. -/
  handler : Option (Candidate (Handler ω))

/-- A server. -/
structure Server (ω : Type) where
  settings : Settings
  executor : Executor
  handler : Option (Candidate (Handler ω))
  router : Option (Router ω)
  chain : Chain ω
  encryption : Option Encryption
  state : ServerState
  boundPort : Option Int
  /-- Whether a listening socket is open. -/
  listening : Bool
  /-- Whether connections are being accepted. -/
  accepting : Bool
  /-- Whether accepting was to begin and did not, so that nobody can wait for it to end. -/
  unbegun : Bool := false
  application : Option (Application ω)
  /-- Every connection accepted so far, in order. -/
  connections : List Connection
  /-- The places of those whose work the server waits for when it stops. -/
  tracked : List Nat

/-- What a running server does not let be changed. -/
inductive Change where
  | middleware
  | handler
  | encryption
  deriving DecidableEq, Repr

/-- Why a server is not configured. -/
inductive ConfigureError where
  | running (change : Change)
  | notCallable (e : NotCallable)

/-- What is said about a change that is not made. -/
def Change.refusal (change : Change) : String :=
  let action := match change with
    | middleware => "add middleware"
    | handler => "change the handler"
    | encryption => "enable TLS"
  s!"Cannot {action} while the server is running"

namespace Server

variable {ω : Type}

/-- The function or datum that was given as a handler, if one was. -/
def given : Candidate (Handler ω) → Option (Candidate (Handler ω))
  | .datum .null => none
  | c => some c

/-- A server that has not been started yet. -/
def made (settings : Settings) (handler : Option (Candidate (Handler ω))) (executor : Executor) :
    Server ω where
  settings := settings
  executor := executor
  handler := handler.bind given
  router := none
  chain := .empty
  encryption := none
  state := .stopped
  boundPort := none
  listening := false
  accepting := false
  application := none
  connections := []
  tracked := []

/-- A server with settings that are valid. -/
def new (settings : Settings) (handler : Option (Candidate (Handler ω))) (executor : Executor) :
    Except InvalidSetting (Server ω) := do
  settings.validate
  return made settings handler executor

/-- Refuses a change unless the server is stopped. -/
def whileStopped (s : Server ω) (change : Change) : Except ConfigureError Unit :=
  if s.state = .stopped then .ok () else .error (.running change)

/-- Sets the handler. -/
def setHandler (s : Server ω) (handler : Candidate (Handler ω)) :
    Except ConfigureError (Server ω) := do
  s.whileStopped .handler
  return { s with handler := given handler }

/-- Adds middleware. What was added first sees requests first. -/
def use (s : Server ω) (middleware : Candidate (Middleware ω)) :
    Except ConfigureError (Server ω) := do
  s.whileStopped .middleware
  let chain ← (s.chain.append? middleware).mapError .notCallable
  return { s with chain }

/-- Encrypts connections. -/
def encrypt (s : Server ω) (encryption : Encryption) : Except ConfigureError (Server ω) := do
  s.whileStopped .encryption
  return { s with encryption := some encryption }

/-- The server with its own router, a new one if it had none. -/
def withRouter (s : Server ω) : Server ω := { s with router := some (s.router.getD .new) }

/-- Changes the server's own router. When that fails, the router is there as it was. -/
def route (s : Server ω) (change : Router ω → Except RegistrationError (Router ω)) :
    Except RegistrationError Unit × Server ω :=
  match change (s.router.getD .new) with
  | .ok router => (.ok (), { s with router := some router })
  | .error e => (.error e, s.withRouter)

/-- Whether the server runs. -/
def isRunning (s : Server ω) : Bool := s.state = .running

/-- The port the server listens on, else the one it is set to. -/
def port (s : Server ω) : Int := s.boundPort.getD s.settings.portNumber

/-- What a start would make the application, if there is anything to answer requests. -/
def compose (s : Server ω) : Option (Application ω) :=
  match s.handler, s.router with
  | some handler, _ => some ⟨s.chain, some handler⟩
  | none, some _ => some ⟨s.chain, none⟩
  | none, none => none

/-- What answers requests at present. -/
def answering (s : Server ω) : Handler ω :=
  match s.application with
  | some ⟨chain, some handler⟩ => chain.wrap (Handler.ofCandidate handler)
  | some ⟨chain, none⟩ => chain.wrap (s.router.getD .new).handle
  | none => Handler.ofCandidate (.datum .null)

end Server

end HttpKit
