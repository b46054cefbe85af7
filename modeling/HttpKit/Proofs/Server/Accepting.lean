import HttpKit.Proofs.Server.Frame

/-!
# Accepting

A server that accepts deals with those who come one after the other: the connection of each is
handed over, or it is closed where the system does not set its options. Neither a wait that is over
nor a hand-over that fails keeps it from the next one. But accepting ends with the first failure to
accept, with the first connection whose options fail in another way than by a refusal of the
system, and with the first one that is refused its options and cannot be closed. The server runs on
after that and serves nobody who comes (`acceptAll_dispatched`).

## How the argument goes

* what accepting comes to is dealt with as if accepting never ended, and then accepting ends or not
  (`accept_eq`)
* by induction over what comes, a server that accepts deals with those who come before accepting
  ends, each once and in order (`acceptAll_eq`)
* whoever is dealt with leaves one connection behind, and the others as they were
  (`connections_dispatch`)
-/

namespace HttpKit

variable {ω : Type}

/-! ## What comes -/

namespace Arrival

/-- Who it is that comes. -/
def peer? : Arrival → Option Peer
  | .peer p => some p
  | .timedOut | .failed _ => none

/-- Whether accepting goes on after it. -/
def goesOn : Arrival → Bool
  | .timedOut => true
  | .failed _ => false
  | .peer p => p.optionTrouble.all fun trouble => trouble.isSystem && p.closeTrouble.isNone

end Arrival

/-- Who comes until accepting ends. -/
def taken : List Arrival → List Peer
  | [] => []
  | arrival :: rest => arrival.peer?.toList ++ if arrival.goesOn then taken rest else []

/-- Whether a connection is that of a peer which was dealt with: handed over, or not, because its
options were not set, and then closed where the system did not set them. -/
structure Dispatched (p : Peer) (c : Connection) : Prop where
  peer : c.peer = p
  handed : p.optionTrouble = none → c.work ≠ .none
  dropped : ∀ trouble ∈ p.optionTrouble, c.work = .none ∧ (trouble.isSystem → c.isOpen = false)

namespace Server

variable {s s' : Server ω} {p : Peer} {j : Journal ω}

/-! ## Those who are dealt with -/

/-- Deals with a peer. -/
def dispatch (s : Server ω) (p : Peer) : StateM (Journal ω) (Server ω) :=
  match p.optionTrouble with
  | none => (s.arrive p).schedule s.connections.length
  | some trouble =>
    if trouble.isSystem then return (s.arrive p).update s.connections.length Connection.close
    else return s.arrive p

/-- Deals with one after the other. -/
def dispatchAll (s : Server ω) (peers : List Peer) : StateM (Journal ω) (Server ω) :=
  peers.foldlM dispatch s

theorem sameApart_dispatch (s : Server ω) (p : Peer) (j : Journal ω) :
    s.SameApart ((s.dispatch p).run j).1 := by
  have harrive : s.SameApart (s.arrive p) := ⟨_, _, rfl⟩
  unfold dispatch
  split
  · exact harrive.trans (sameApart_schedule _ _ j)
  · split
    · exact harrive.trans (sameApart_update _ _ _)
    · exact harrive

theorem sameApart_dispatchAll (s : Server ω) (peers : List Peer) (j : Journal ω) :
    s.SameApart ((s.dispatchAll peers).run j).1 := by
  induction peers generalizing s j with
  | nil => exact .refl s
  | cons p peers ih => exact (sameApart_dispatch s p j).trans (ih _ _)

/-- Whatever becomes of work that is handed over, its connection is its peer's. -/
theorem connections_schedule (s : Server ω) (p : Peer) (j : Journal ω) :
    ∃ c, (((s.arrive p).schedule s.connections.length).run j).1.connections = s.connections ++ [c]
      ∧ c.peer = p ∧ c.work ≠ .none := by
  have hhanded := connections_handOver s p
  unfold schedule
  cases (s.arrive p).executor s.connections.length with
  | later => exact ⟨.handed p, hhanded, rfl, by simp [Connection.handed]⟩
  | atOnce =>
    have hc : ((s.arrive p).act s.connections.length .handOver).connections[
        s.connections.length]? = some (.handed p) := by simp [hhanded]
    obtain ⟨c, hconnections, hpeer, hwork⟩ := connections_work hc j
    refine ⟨c, ?_, hpeer, hwork (by simp [Connection.handed])⟩
    simp [hconnections, hhanded]
  | rejected =>
    refine ⟨_, (connections_acts _ _ _).trans (connections_update_last hhanded _), rfl, ?_⟩
    simp [Scheduling.acts, releasing, Act.onAll, Act.on]
  | broken trouble =>
    refine ⟨_, (connections_acts _ _ _).trans (connections_update_last hhanded _), rfl, ?_⟩
    simp [Scheduling.acts, Act.onAll, Act.on, Connection.close, Connection.work_abort]

theorem connections_dispatch (s : Server ω) (p : Peer) (j : Journal ω) :
    ∃ c, ((s.dispatch p).run j).1.connections = s.connections ++ [c] ∧ Dispatched p c := by
  unfold dispatch
  cases ht : p.optionTrouble with
  | none =>
    obtain ⟨c, hc, hp, hw⟩ := connections_schedule s p j
    exact ⟨c, hc, hp, fun _ => hw, by simp [ht]⟩
  | some trouble =>
    simp only []
    cases hsystem : trouble.isSystem with
    | true =>
      exact ⟨_, connections_update_last rfl _, rfl, by simp [ht], fun _ _ => ⟨rfl, fun _ => rfl⟩⟩
    | false =>
      refine ⟨_, rfl, rfl, by simp [ht], fun trouble' h => ⟨rfl, fun h' => ?_⟩⟩
      obtain rfl : trouble = trouble' := Option.some.inj (ht.symm.trans h)
      exact absurd (hsystem.symm.trans h') (by decide)

/-- **Each who comes is dealt with once, in the order in which they come.** -/
theorem connections_dispatchAll (s : Server ω) (peers : List Peer) (j : Journal ω) :
    ∃ connections, ((s.dispatchAll peers).run j).1.connections = s.connections ++ connections
      ∧ List.Forall₂ Dispatched peers connections := by
  induction peers generalizing s j with
  | nil => exact ⟨[], (List.append_nil _).symm, .nil⟩
  | cons p peers ih =>
    obtain ⟨c, hc, hp⟩ := connections_dispatch s p j
    obtain ⟨rest, hrest, hpeers⟩ := ih ((s.dispatch p).run j).1 ((s.dispatch p).run j).2
    refine ⟨c :: rest, ?_, .cons hp hpeers⟩
    rw [hc, List.append_assoc] at hrest
    exact hrest

/-! ## Those who come -/

/-- What is left when accepting ends or goes on. -/
def endedUnless (s : Server ω) (goesOn : Bool) : Server ω := if goesOn then s else s.endAccepting

theorem accept_of_ended (h : s.accepting = false) (arrival : Arrival) (j : Journal ω) :
    (s.accept arrival).run j = (s, j) := by
  unfold accept
  rw [if_pos (by simp [h])]
  rfl

theorem accept_eq (h : s.accepting = true) (arrival : Arrival) (j : Journal ω) :
    (s.accept arrival).run j = ((s.dispatchAll arrival.peer?.toList).run j).map
      (·.endedUnless arrival.goesOn) id := by
  unfold accept
  rw [if_neg (by simp [h])]
  match arrival with
  | .timedOut => rfl
  | .failed trouble => rfl
  | .peer p =>
    have hone : s.dispatchAll (Arrival.peer p).peer?.toList = s.dispatch p := bind_pure _
    rw [hone, dispatch, Arrival.goesOn]
    dsimp only
    cases p.optionTrouble with
    | none => rfl
    | some trouble =>
      dsimp only
      rw [acts_dropping]
      cases hsystem : trouble.isSystem with
      | false => simp only [hsystem, Option.all_some, Bool.false_and]; rfl
      | true =>
        simp only [hsystem, Option.all_some, Bool.true_and]
        cases p.closeTrouble <;> rfl

theorem acceptAll_of_ended (h : s.accepting = false) (arrivals : List Arrival) (j : Journal ω) :
    (arrivals.foldlM accept s).run j = (s, j) := by
  induction arrivals with
  | nil => rfl
  | cons arrival rest ih =>
    rw [List.foldlM_cons, StateT.run_bind, accept_of_ended h]
    exact ih

/-- **A server that accepts deals with those who come before accepting ends**, and with nobody who
comes later. -/
theorem acceptAll_eq (h : s.accepting = true) (arrivals : List Arrival) (j : Journal ω) :
    (arrivals.foldlM accept s).run j = ((s.dispatchAll (taken arrivals)).run j).map
      (·.endedUnless (arrivals.all Arrival.goesOn)) id := by
  induction arrivals generalizing s j with
  | nil => rfl
  | cons arrival rest ih =>
    have hsame := sameApart_dispatchAll s arrival.peer?.toList j
    have hall : s.dispatchAll (taken (arrival :: rest)) = s.dispatchAll arrival.peer?.toList >>=
        fun s' => s'.dispatchAll (if arrival.goesOn then taken rest else []) :=
      List.foldlM_append
    rw [List.foldlM_cons, StateT.run_bind, accept_eq h, hall, StateT.run_bind, List.all_cons]
    generalize (s.dispatchAll arrival.peer?.toList).run j = r at hsame ⊢
    -- Dealing with someone does not end accepting, so that only what comes decides.
    cases arrival.goesOn with
    | true => exact ih (hsame.accepting.trans h) r.2
    | false => exact acceptAll_of_ended rfl rest r.2

/-- **While a server runs, accepting goes on until something ends it**: it does so exactly as long
as everything that comes lets it. The server runs as before in any case. Whoever comes before
accepting ends is dealt with once, in the order in which they come, and nobody who comes later. -/
theorem acceptAll_dispatched (h : s.accepting = true) (arrivals : List Arrival) (j : Journal ω) :
    let s' := ((arrivals.foldlM accept s).run j).1
    s'.state = s.state ∧ s'.accepting = arrivals.all Arrival.goesOn
      ∧ ∃ connections, s'.connections = s.connections ++ connections
        ∧ List.Forall₂ Dispatched (taken arrivals) connections := by
  intro s'
  have hsame := sameApart_dispatchAll s (taken arrivals) j
  obtain ⟨connections, hconnections, hpeers⟩ := connections_dispatchAll s (taken arrivals) j
  have hs' : s' = ((s.dispatchAll (taken arrivals)).run j).1.endedUnless
      (arrivals.all Arrival.goesOn) := congrArg Prod.fst (acceptAll_eq h arrivals j)
  rw [hs', endedUnless]
  cases arrivals.all Arrival.goesOn with
  | true => exact ⟨hsame.state, hsame.accepting.trans h, connections, hconnections, hpeers⟩
  | false => exact ⟨hsame.state, rfl, connections, hconnections, hpeers⟩

/-! ### A server that runs and accepts nobody -/

/-- A server that has started. -/
def acceptor : Server Unit :=
  ((made .default (some (.function fun _ => return .nothing)) .workers).start
    ⟨fun _ => none, 49152⟩).2

/-- Someone who sends some bytes and then nothing. -/
def sender (bytes : Bytes) : Peer :=
  ⟨[.text "192.0.2.7", .int 50000], some (.memory ⟨bytes⟩), none, none, none⟩

def visitor : Peer := sender (utf8 "GET / HTTP/1.1\r\n\r\n")

/-- Someone who is gone before the options of the connection are set. -/
def vanished : Peer := { visitor with optionTrouble := some (.system "Invalid argument") }

/-- Someone whose connection cannot even be closed. -/
def stubborn : Peer := { vanished with closeTrouble := some (.system "Input/output error") }

theorem acceptAll_stubborn :
    acceptor.accepting = true ∧ ∀ j,
      let arrivals : List Arrival :=
        [.timedOut, .peer visitor, .peer vanished, .peer stubborn, .peer visitor]
      let s' := ((arrivals.foldlM accept acceptor).run j).1
      s'.state = .running ∧ s'.accepting = false
        ∧ List.Forall₂ Dispatched [visitor, vanished, stubborn] s'.connections := by
  refine ⟨rfl, fun j => ?_⟩
  obtain ⟨hstate, haccepting, connections, hconnections, hpeers⟩ :=
    acceptAll_dispatched (s := acceptor) rfl
      [.timedOut, .peer visitor, .peer vanished, .peer stubborn, .peer visitor] j
  exact ⟨hstate, haccepting, hconnections ▸ hpeers⟩

/-- **One failure ends accepting while the server runs**: after a descriptor that was not to be had,
and after a connection that could not be closed, whoever comes is not even accepted. -/
theorem not_accepting_tooManyFiles :
    (let exhausted : List Arrival :=
        [.failed (.system "[Errno 24] Too many open files"), .peer visitor]
      let s' := ((exhausted.foldlM accept acceptor).run ⟨⟨[], [], ""⟩, [], ()⟩).1
      s'.isRunning = true ∧ s'.accepting = false ∧ s'.connections = [])
    ∧ (let stuck : List Arrival := [.peer stubborn, .peer visitor]
      let s' := ((stuck.foldlM accept acceptor).run ⟨⟨[], [], ""⟩, [], ()⟩).1
      s'.isRunning = true ∧ s'.accepting = false
        ∧ s'.connections = [(Connection.ofPeer stubborn).close]) :=
  ⟨⟨rfl, rfl, rfl⟩, ⟨rfl, rfl, rfl⟩⟩

end Server

end HttpKit
