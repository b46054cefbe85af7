import HttpKit.Server.Work

/-!
# Starting and stopping

A start binds the address and begins to accept; only a refusal of the address itself leaves the
server stopped. A stop ends accepting, waits for the work on open connections as long as the
settings say, and shuts those that are left.
-/

namespace HttpKit

/-- What a start does, in order. -/
inductive StartStep where
  | create
  | bind
  | listen
  | readPort
  | beginAccepting
  deriving DecidableEq, Repr

/-- What a start finds outside: why a step fails, and the port that the system chooses. -/
structure Network where
  trouble : StartStep → Option Trouble
  freePort : Int

/-- Why a server does not start. -/
inductive StartError where
  | noHandler
  | trouble (t : Trouble)
  deriving DecidableEq, Repr

/-- The trouble that a start ends in. -/
def StartError.toTrouble : StartError → Trouble
  | noHandler => .runtime "No request handler configured"
  | trouble t => t

/-- The trouble of a wait that is longer than the system's clock counts. -/
def Trouble.waitTooLong : Trouble := .other "OverflowError" "timeout value is too large"

/-- The trouble of waiting for something to end that never began. -/
def Trouble.neverBegan : Trouble := .runtime "cannot join thread before it is started"

/-- The longest wait in seconds that the system's clock counts. -/
def longestWait : Float := 9223372036.0

namespace Server

variable {ω : Type}

/-- The port that a server gets. -/
def portOn (s : Server ω) (network : Network) : Int :=
  if s.settings.portNumber = 0 then network.freePort else s.settings.portNumber

/-- Listens on the address. -/
def listen (s : Server ω) (network : Network) : Except StartError Unit × Server ω :=
  let starting := { s with state := .starting }
  let listening := { starting with listening := true }
  let running := { listening with state := .running, boundPort := some (s.portOn network) }
  match network.trouble .create, network.trouble .bind <|> network.trouble .listen,
    network.trouble .readPort, network.trouble .beginAccepting with
  | some t, _, _, _ => (.error (.trouble t), starting)
  | none, some t, _, _ =>
    (.error (.trouble t), if t.isSystem then { s with state := .stopped } else starting)
  | none, none, some t, _ => (.error (.trouble t), listening)
  | none, none, none, some t => (.error (.trouble t), { running with unbegun := true })
  | none, none, none, none => (.ok (), { running with accepting := true })

/-- Starts a server that is stopped. -/
def start (s : Server ω) (network : Network) : Except StartError Unit × Server ω :=
  if s.state ≠ .stopped then (.ok (), s)
  else
    match s.compose with
    | none => (.error .noHandler, s)
    | some application => { s with application := some application }.listen network

/-- The server once it is told to stop: it no longer listens. -/
def beginStop (s : Server ω) : Server ω := { s with state := .stopping, listening := false }

/-- The server once it has stopped. -/
def halted (s : Server ω) : Server ω := { s with state := .stopped, boundPort := none }

/-- Stops a server that runs. `inTime` are the places of the connections whose work ends before
the time is over. The count is that of the connections shut after it. Where connections are open
and the time cannot be counted, the server stops and leaves them open. Where accepting never began,
the stop fails halfway. -/
def stop (s : Server ω) (inTime : List Nat) :
    StateM (Journal ω) (Except Trouble Nat × Server ω) := do
  if s.state ≠ .running then return (.ok 0, s)
  if s.unbegun then return (.error .neverBegan, s.beginStop)
  let stopping := s.beginStop.endAccepting
  if !s.tracked.isEmpty && longestWait < s.settings.shutdownTimeout then
    return (.error .waitTooLong, stopping.halted)
  let drained ← stopping.workAll inTime
  return (.ok drained.tracked.length, drained.abortTracked.halted)

end Server

end HttpKit
