import HttpKit.Server.State

/-!
# Work on connections

Connections are accepted one after the other and handed over. The work on a connection reads the
request, answers it and closes the connection, whatever happens on the way.
-/

namespace HttpKit

/-- What accepting a connection comes to. -/
inductive Arrival where
  | peer (p : Peer)
  | timedOut
  | failed (trouble : Trouble)

/-- What is done to a connection beside the exchange with its peer. -/
inductive Act where
  /-- It is waited for from now on. -/
  | handOver
  | close
  /-- It is waited for no longer. -/
  | leave (work : Work)
  /-- Nobody is going to work on it. -/
  | lose
  /-- No more connections are accepted. -/
  | endAccepting
  deriving DecidableEq, Repr

/-- How a connection is released: it is closed, and then waited for no longer. -/
def releasing (work : Work) : List Act := [.close, .leave work]

/-- What is done to a connection after its work was offered. -/
def Scheduling.acts : Scheduling → List Act
  | later | atOnce => []
  | rejected => releasing .rejected
  | broken _ => [.lose, .close]

/-- What is done to a connection whose options cannot be set. It is dropped where the system refused
them, and accepting ends if that fails. It is left as it is where they failed otherwise, which ends
accepting. -/
def Peer.dropping (p : Peer) (trouble : Trouble) : List Act :=
  if trouble.isSystem then .close :: if p.closeTrouble.isSome then [.endAccepting] else []
  else [.endAccepting]

/-- What comes of a peer that wants to be served. -/
inductive Visit where
  /-- Nobody listens. -/
  | refused
  /-- It can connect, and waits to be accepted for good. -/
  | ignored
  /-- Its connection has this place. -/
  | accepted (place : Nat)
  deriving DecidableEq, Repr

/-- The place of its connection, if it has one. -/
def Visit.place? : Visit → Option Nat
  | accepted place => some place
  | refused | ignored => none

namespace Server

variable {ω : Type}

/-- Changes a connection. -/
def update (s : Server ω) (place : Nat) (f : Connection → Connection) : Server ω :=
  { s with connections := s.connections.modify place f }

/-- Marks the work on a connection. -/
def mark (s : Server ω) (place : Nat) (work : Work) : Server ω :=
  s.update place fun c => { c with work }

/-- Does no longer wait for the work on a connection. -/
def untrack (s : Server ω) (place : Nat) : Server ω :=
  { s with tracked := s.tracked.filter (· ≠ place) }

/-- Accepts no more connections. -/
def endAccepting (s : Server ω) : Server ω := { s with accepting := false }

/-- Does an act on a connection. -/
def act (s : Server ω) (place : Nat) : Act → Server ω
  | .handOver => { s with tracked := s.tracked ++ [place] }.mark place .waiting
  | .close => s.update place Connection.close
  | .leave work => (s.untrack place).mark place work
  | .lose => s.mark place .lost
  | .endAccepting => s.endAccepting

/-- Does acts on a connection, in order. -/
def acts (s : Server ω) (place : Nat) (todo : List Act) : Server ω :=
  todo.foldl (fun s a => s.act place a) s

/-- Works on a connection. Whatever the exchange breaks off with ends here, and the connection is
released; only the work on a peer that keeps silent does not end. -/
def work (s : Server ω) (place : Nat) : StateM (Journal ω) (Server ω) := do
  match s.connections[place]? with
  | none => return s
  | some c =>
    if c.work ≠ .waiting then return s
    else
      let (outcome, c) ← (Exchange.serve s.answering s.encryption).run.run c
      let served := s.update place fun _ => c
      match outcome with
      | .ok false => return served
      | .ok true | .error _ => return served.acts place (releasing .ended)

/-- Works on connections one after the other. -/
def workAll (s : Server ω) (places : List Nat) : StateM (Journal ω) (Server ω) :=
  places.foldlM work s

/-- Accepts a connection. -/
def arrive (s : Server ω) (p : Peer) : Server ω :=
  { s with connections := s.connections ++ [Connection.ofPeer p] }

/-- Hands over a connection and offers the work on it. -/
def schedule (s : Server ω) (place : Nat) : StateM (Journal ω) (Server ω) :=
  let handed := s.act place .handOver
  match s.executor place with
  | .atOnce => handed.work place
  | answer => return handed.acts place answer.acts

/-- Takes what accepting comes to. A failure to accept ends accepting. -/
def accept (s : Server ω) (arrival : Arrival) : StateM (Journal ω) (Server ω) :=
  if !s.accepting then return s
  else
    match arrival with
    | .timedOut => return s
    | .failed _ => return s.endAccepting
    | .peer p =>
      let place := s.connections.length
      match p.optionTrouble with
      | none => (s.arrive p).schedule place
      | some trouble => return (s.arrive p).acts place (p.dropping trouble)

/-- Accepts a peer and works on its connection right away. -/
def visit (s : Server ω) (p : Peer) : StateM (Journal ω) (Visit × Server ω) := do
  if !s.listening then return (.refused, s)
  if !s.accepting then return (.ignored, s)
  let place := s.connections.length
  let s ← s.accept (.peer p)
  return (.accepted place, ← s.work place)

/-- Shuts the connections whose work has not ended. -/
def abortTracked (s : Server ω) : Server ω :=
  s.tracked.foldl (fun s place => s.update place Connection.abort) s

end Server

end HttpKit
