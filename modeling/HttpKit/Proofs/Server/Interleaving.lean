import HttpKit.Proofs.Server.Exchange
import HttpKit.Server.LifeCycle
import Mathlib.Logic.Function.Basic

/-!
# Interleavings

A server accepts on one thread, works on every connection on another, and is started and stopped
from anywhere. What a thread has left to do with a connection is a list of tasks, which it does one
by one and in order; the tasks are those that the functions of the server do (`Peer.program`,
`Scheduling.acts`, `serving`). Between two tasks of one thread anything may happen that the other
threads do (`Step`, `Steps`). In an exchange this is so between any two of its parts.

How long anything takes is left open: the time of a stop is over at any moment after accepting has
ended, whether or not all work has. An executor that does the work where it is handed over keeps the
accepting thread from accepting until that is done. To a stop that finds it there, accepting has
ended: the listening socket is closed, and there is nothing to be accepted after it.
-/

namespace HttpKit

variable {ω : Type}

/-! ## Tasks -/

/-- Who does something with a connection. -/
inductive Thread where
  | acceptor
  | worker
  deriving DecidableEq, Repr

/-- Something to be done with a connection. -/
inductive Task where
  | act (a : Act)
  /-- The work on it is offered. -/
  | submit
  /-- The exchange with its peer. -/
  | exchange
  deriving DecidableEq, Repr

/-- What the accepting thread does with a connection that it has accepted. -/
def Peer.program (p : Peer) : List Task :=
  match p.optionTrouble with
  | none => [.act .handOver, .submit]
  | some trouble => (p.dropping trouble).map .act

/-- What a worker does with a connection. -/
def serving : List Task := .exchange :: (releasing .ended).map .act

/-- What is left to the worker of a connection whose work was offered. -/
def Scheduling.worker : Scheduling → List Task
  | later | atOnce => serving
  | rejected | broken _ => []

/-! ## Steps -/

/-- What happens on a server. Connections are named by their places. -/
inductive Event where
  | start
  | configure
  | arrive
  | act (place : Nat) (a : Act)
  | submit (place : Nat)
  /-- A worker does a part of its exchange. -/
  | progress (place : Nat)
  /-- A handshake fails and closes the socket that it holds. -/
  | fail (place : Nat)
  /-- The exchange is over. -/
  | served (place : Nat)
  | endAccepting
  | stop
  /-- The time of a stop is over, or nothing is left to wait for. -/
  | deadline
  /-- A stop shuts a connection. -/
  | abort (place : Nat)
  /-- A stop comes to a connection whose socket a handshake holds. -/
  | miss (place : Nat)
  | halt
  /-- A stop whose time cannot be counted breaks off. -/
  | breakOff
  deriving DecidableEq, Repr

/-- The place of the connection that something happens to. -/
def Event.place? : Event → Option Nat
  | act place _ | submit place | progress place | fail place | served place | abort place
  | miss place => some place
  | start | configure | arrive | endAccepting | stop | deadline | halt | breakOff => none

/-- A server at a moment between two steps. -/
structure Moment (ω : Type) where
  server : Server ω
  /-- What a thread has left to do with the connection at a place. -/
  todo : Thread → Nat → List Task
  /-- The places of the connections that a stop is about to shut. -/
  leftover : Option (List Nat)

namespace Moment

/-- Whether the accepting thread is between two connections. -/
def Idle (m : Moment ω) : Prop := ∀ place, m.todo .acceptor place = []

/-- Another server, and something else left to a thread. -/
def goOn (m : Moment ω) (server : Server ω) (thread : Thread) (place : Nat) (rest : List Task) :
    Moment ω :=
  { m with
    server
    todo := Function.update m.todo thread (Function.update (m.todo thread) place rest) }

/-- A server with which nothing is in progress but the work that was handed over. -/
def between (s : Server ω) : Moment ω where
  server := s
  todo
    | .acceptor, _ => []
    | .worker, place =>
      if (s.connections[place]?).any (·.work = .waiting) then serving else []
  leftover := none

end Moment

/-- A connection that has gone on to a phase and was written to. -/
def Connection.advance (phase : Phase) (writes : List Bytes) (c : Connection) : Connection :=
  { c with phase, writes := c.writes ++ writes }

/-- A connection whose handshake has failed. -/
def Connection.failed (c : Connection) : Connection := { c with phase := .new, isOpen := false }

inductive Step : Moment ω → Event → Moment ω → Prop where
  | start {m : Moment ω} (network : Network) :
      Step m .start { m with server := (m.server.start network).2 }
  | configure {m : Moment ω} (handler : Option (Candidate (Handler ω)))
      (router : Option (Router ω)) (chain : Chain ω) (encryption : Option Encryption) :
      Step m .configure
        { m with server := { m.server with handler, router, chain, encryption } }
  /-- Connections are accepted one after the other. -/
  | arrive {m : Moment ω} (p : Peer) (haccepting : m.server.accepting = true) (hidle : m.Idle) :
      Step m .arrive
        (m.goOn (m.server.arrive p) .acceptor m.server.connections.length p.program)
  | act {m : Moment ω} {thread : Thread} {place : Nat} {a : Act} {rest : List Task}
      (h : m.todo thread place = .act a :: rest) :
      Step m (.act place a) (m.goOn (m.server.act place a) thread place rest)
  /-- The work is taken by a worker, or the accepting thread goes on with the connection. -/
  | submit {m : Moment ω} {place : Nat} {rest : List Task}
      (h : m.todo .acceptor place = .submit :: rest) :
      Step m (.submit place)
        ((m.goOn m.server .acceptor place
            ((m.server.executor place).acts.map .act ++ rest)).goOn
          m.server .worker place (m.server.executor place).worker)
  | progress {m : Moment ω} {place : Nat} {c : Connection} {rest : List Task} (phase : Phase)
      (writes : List Bytes) (h : m.todo .worker place = .exchange :: rest)
      (hc : m.server.connections[place]? = some c) (hphase : phase ≠ .closed) :
      Step m (.progress place)
        { m with server := m.server.update place (Connection.advance phase writes) }
  | fail {m : Moment ω} {place : Nat} {c : Connection} {rest : List Task}
      (h : m.todo .worker place = .exchange :: rest)
      (hc : m.server.connections[place]? = some c) (hphase : c.phase = .shaking) :
      Step m (.fail place) { m with server := m.server.update place Connection.failed }
  | served {m : Moment ω} {place : Nat} {c : Connection} {rest : List Task}
      (h : m.todo .worker place = .exchange :: rest)
      (hc : m.server.connections[place]? = some c) (hfree : c.Free) :
      Step m (.served place) (m.goOn m.server .worker place rest)
  /-- Accepting ends between two connections. -/
  | endAccepting {m : Moment ω} (hidle : m.Idle) :
      Step m .endAccepting { m with server := m.server.endAccepting }
  | stop {m : Moment ω} (hs : m.server.state = .running) :
      Step m .stop { m with server := m.server.beginStop }
  /-- A stop waits for accepting to end before its time begins. -/
  | deadline {m : Moment ω} (hs : m.server.state = .stopping) (ha : m.server.accepting = false)
      (hidle : m.Idle) (hl : m.leftover = none) :
      Step m .deadline { m with leftover := some m.server.tracked }
  | abort {m : Moment ω} {place : Nat} {c : Connection} {rest : List Nat}
      (hl : m.leftover = some (place :: rest)) (hc : m.server.connections[place]? = some c)
      (hphase : c.phase ≠ .shaking) :
      Step m (.abort place)
        { m with server := m.server.update place Connection.abort, leftover := some rest }
  | miss {m : Moment ω} {place : Nat} {c : Connection} {rest : List Nat}
      (hl : m.leftover = some (place :: rest)) (hc : m.server.connections[place]? = some c)
      (hphase : c.phase = .shaking) :
      Step m (.miss place)
        { m with server := m.server.update place Connection.abort, leftover := some rest }
  | halt {m : Moment ω} (hl : m.leftover = some []) :
      Step m .halt { m with server := m.server.halted, leftover := none }
  | breakOff {m : Moment ω} (hs : m.server.state = .stopping) (ha : m.server.accepting = false)
      (hidle : m.Idle) (hl : m.leftover = none) (htracked : m.server.tracked ≠ [])
      (hlong : longestWait < m.server.settings.shutdownTimeout) :
      Step m .breakOff { m with server := m.server.halted }

/-- A sequence of steps, and the events on the way. -/
inductive Steps : Moment ω → List Event → Moment ω → Prop where
  | refl (m : Moment ω) : Steps m [] m
  | step {m m' m'' : Moment ω} {events : List Event} {e : Event} (h : Steps m events m')
      (hs : Step m' e m'') : Steps m (events ++ [e]) m''

namespace Steps

variable {m m' m'' : Moment ω} {events events' : List Event} {e : Event}

theorem single (h : Step m e m') : Steps m [e] m' := .step (.refl m) h

theorem trans (h : Steps m events m') (h' : Steps m' events' m'') :
    Steps m (events ++ events') m'' := by
  induction h' with
  | refl => rwa [List.append_nil]
  | step _ hs ih =>
    rw [← List.append_assoc]
    exact .step ih hs

theorem cons (h : Step m e m') (h' : Steps m' events m'') : Steps m (e :: events) m'' :=
  (single h).trans h'

end Steps

/-! ## Starting -/

/-- A start leaves the connections as they are. It begins to accept only where it succeeds, and
does nothing unless the server is stopped. -/
theorem Server.start_cases (s : Server ω) (network : Network) :
    (s.start network).2 = s
      ∨ s.state = .stopped
        ∧ (s.start network).2.connections = s.connections
        ∧ (s.start network).2.tracked = s.tracked
        ∧ ((s.start network).2.accepting = s.accepting
          ∨ (s.start network).2.state = .running ∧ (s.start network).2.accepting = true) := by
  unfold start
  by_cases hs : s.state = .stopped
  · rw [if_neg (by simp [hs])]
    cases s.compose with
    | none => exact Or.inl rfl
    | some application =>
      refine Or.inr ⟨hs, ?_⟩
      simp only [listen]
      split
      · exact ⟨rfl, rfl, Or.inl rfl⟩
      · split <;> exact ⟨rfl, rfl, Or.inl rfl⟩
      · exact ⟨rfl, rfl, Or.inl rfl⟩
      · exact ⟨rfl, rfl, Or.inl rfl⟩
      · exact ⟨rfl, rfl, Or.inr ⟨rfl, rfl⟩⟩
  · exact Or.inl (by rw [if_pos hs])

theorem Server.start_keeps (s : Server ω) (network : Network) :
    (s.start network).2.settings = s.settings := by
  unfold start
  split
  · rfl
  · cases s.compose with
    | none => rfl
    | some application =>
      simp only [listen]
      split
      · rfl
      · split <;> rfl
      · rfl
      · rfl
      · rfl

theorem Step.keeps {m m' : Moment ω} {e : Event} (h : Step m e m') :
    m'.server.settings = m.server.settings := by
  cases h with
  | start network => exact m.server.start_keeps network
  | @act _ place a =>
    show (m.server.act place a).settings = m.server.settings
    cases a <;> rfl
  | _ => rfl

namespace Steps

variable {m m' : Moment ω} {events : List Event}

/-- **A server keeps its settings.** -/
theorem keeps (h : Steps m events m') : m'.server.settings = m.server.settings := by
  induction h with
  | refl => rfl
  | step _ hs ih => exact hs.keeps.trans ih

/-- No stop breaks off where its time can be counted. -/
theorem breakOff_not_mem (h : Steps m events m')
    (htime : ¬longestWait < m.server.settings.shutdownTimeout) : .breakOff ∉ events := by
  induction h with
  | refl => exact List.not_mem_nil
  | step h hs ih =>
    intro hm
    rcases List.mem_append.mp hm with hm | hm
    · exact ih hm
    · obtain rfl := List.mem_singleton.mp hm
      cases hs with
      | breakOff _ _ _ _ _ hlong => exact htime (h.keeps ▸ hlong)

end Steps

/-! ## One connection among the others -/

namespace Server

variable {s : Server ω} {place other : Nat} {c : Connection} {f : Connection → Connection}

theorem getElem?_update (hc : s.connections[place]? = some c) (f : Connection → Connection) :
    (s.update place f).connections[place]? = some (f c) := by
  simp [update, hc]

theorem getElem?_update_of_ne (h : place ≠ other) (f : Connection → Connection) :
    (s.update place f).connections[other]? = s.connections[other]? := by
  simp [update, h]

@[simp]
theorem length_update (s : Server ω) (place : Nat) (f : Connection → Connection) :
    (s.update place f).connections.length = s.connections.length := by
  simp [update]

end Server

end HttpKit
