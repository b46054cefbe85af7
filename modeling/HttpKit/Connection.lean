import HttpKit.Handler
import HttpKit.Trouble
import HttpKit.Wire.Request
import HttpKit.Wire.Stream

/-!
# Connections

A connection carries one request and at most one response, and is closed after it. A request that
cannot be read is not answered.
-/

namespace HttpKit

/-- The other end of a connection: what it sends, and what fails on the way. -/
structure Peer where
  address : Address
  /-- What it sends. One that is silent keeps its reader waiting until the connection is shut. -/
  stream : Option Stream
  /-- Why the connection's options cannot be set. -/
  optionTrouble : Option Trouble
  /-- Why nothing can be written to it. -/
  sendTrouble : Option Trouble
  /-- Why closing its socket fails. The socket is closed all the same. -/
  closeTrouble : Option Trouble := none

/-- What a handshake comes to. -/
inductive Handshake where
  | done
  /-- It fails, and closes the socket. -/
  | failed (trouble : Trouble)
  /-- It waits for a peer that does not take part. -/
  | pending
  deriving DecidableEq, Repr

/-- Encryption: what the handshake with a peer comes to. Only a silent peer keeps it waiting. -/
structure Encryption where
  shake : Peer → Handshake
  stream_of_pending : ∀ p, shake p = .pending → p.stream = none := by simp

/-- Encryption where every handshake is done at once. -/
def Encryption.immediate : Encryption where
  shake _ := .done

/-- How far a connection is. -/
inductive Phase where
  | new
  /-- A handshake holds its socket: nobody else can shut it. -/
  | shaking
  /-- Its worker waits for what the peer sends. -/
  | reading
  | processing
  | writing
  | closed
  deriving DecidableEq, Repr

/-- What became of the work on a connection. -/
inductive Work where
  /-- It was not scheduled: the connection could not be set up. -/
  | none
  /-- It is scheduled and has not ended. -/
  | waiting
  | ended
  /-- It could not be scheduled, and the connection was given up. -/
  | rejected
  /-- Scheduling it broke. -/
  | lost
  deriving DecidableEq, Repr

/-- An accepted connection. -/
structure Connection where
  peer : Peer
  phase : Phase
  /-- Whether its socket is open. -/
  isOpen : Bool
  /-- What its socket was given to write, one entry each time, whether or not that failed. -/
  writes : List Bytes
  work : Work

namespace Connection

/-- A connection that was just accepted. -/
def ofPeer (peer : Peer) : Connection := ⟨peer, .new, true, [], .none⟩

/-- Shuts the socket from outside. Whoever works on the connection finds out. A handshake that holds
the socket does not, and the socket stays open. -/
def abort (c : Connection) : Connection :=
  if c.phase = .shaking then c else { c with isOpen := false }

/-- Closes the connection. Whatever fails in closing does not matter. -/
def close (c : Connection) : Connection := { c.abort with phase := .closed }

/-- The bytes that reached the peer. A write reaches it as a whole or not at all. -/
def sent (c : Connection) : Bytes := if c.peer.sendTrouble.isSome then [] else c.writes.flatten

end Connection

/-- Why the exchange on a connection breaks off. -/
inductive Drop where
  /-- The socket was shut from outside. -/
  | shut
  | handshake (trouble : Trouble)
  | request (e : ParseError)
  /-- The application's reply is no response. -/
  | reply (fault : Fault)
  /-- There are no bytes of the response. -/
  | unencodable
  | send (trouble : Trouble)

/-- A part of the exchange on a connection. Where it breaks off, what was done before stays done. -/
abbrev Exchange (ω α : Type) := ExceptT Drop (StateT Connection (StateM (Journal ω))) α

namespace Exchange

variable {ω : Type}

/-- The peer, as long as the socket is open. -/
def peer : Exchange ω Peer := do
  let c ← get
  if c.isOpen then return c.peer else throw .shut

/-- Goes on to a phase. -/
def enter (phase : Phase) : Exchange ω Unit := modify fun c => { c with phase }

/-- Shakes hands where connections are encrypted. Says whether that came to an end. -/
def shakeHands (encryption : Option Encryption) : Exchange ω Bool := do
  match encryption with
  | none => return true
  | some encryption =>
    let peer ← peer
    enter .shaking
    match encryption.shake peer with
    | .pending => return false
    | .done =>
      enter .new
      return true
    | .failed trouble =>
      modify fun c => { c with phase := .new, isOpen := false }
      throw (.handshake trouble)

/-- Reads the request. Nothing comes of a silent peer. -/
def readRequest : Exchange ω (Option Request) := do
  enter .reading
  let peer ← peer
  match peer.stream with
  | none => return none
  | some stream =>
    match (Wire.readRequest defaultLineLimit (some peer.address) stream).1 with
    | .ok request => return some request
    | .error e => throw (.request e)

/-- The application's response to a request. -/
def respond (app : Handler ω) (request : Request) : Exchange ω Response := do
  enter .processing
  match (← app.invoke request).demand "to_bytes" with
  | .ok response => return response
  | .error fault => throw (.reply fault)

/-- The bytes of a response. -/
def encode (response : Response) : Exchange ω Bytes :=
  match response.toBytes? with
  | some bytes => return bytes
  | none => throw .unencodable

/-- Writes bytes. -/
def send (bytes : Bytes) : Exchange ω Unit := do
  enter .writing
  let peer ← peer
  modify fun c => { c with writes := c.writes ++ [bytes] }
  match peer.sendTrouble with
  | none => return ()
  | some trouble => throw (.send trouble)

/-- Answers one request with one response. Says whether there was anything to answer. -/
def answer (app : Handler ω) : Exchange ω Bool := do
  match ← readRequest with
  | none => return false
  | some request =>
    let response ← respond app request
    send (← encode response)
    return true

/-- Serves the peer. Says whether that came to an end: a peer that is silent, or does not take part
in the handshake, keeps its worker waiting. -/
def serve (app : Handler ω) (encryption : Option Encryption) : Exchange ω Bool := do
  if ← shakeHands encryption then answer app else return false

end Exchange

end HttpKit
