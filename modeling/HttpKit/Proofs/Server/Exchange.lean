import HttpKit.Server.Work
import Mathlib.Data.List.Basic

/-!
# The exchange on a connection

The work on a connection shakes hands, reads a request, has it answered and writes the response.
Each of these may break off, and whatever happens the connection is released. What a worker writes
is said here without a worker: `Receives` is when a connection brings a request, `Answers` which
response an application's outcome calls for, and `Exchanged` what is written then.

## How the argument goes

* an exchange is a sequence of parts; a part that breaks off ends it with the connection as it is
  (`on_bind_ok`, `on_bind_error`)
* every part has a lemma for each way in which it can end; only `send` writes (`on_send`), and it
  comes last
* `on_serve` follows the parts: nothing is written before there is a response, and then it is
  written once
* the work releases the connection after each of these ends (`work_of_served`, `work_exchanged`)

`work_of_waiting` puts both together.
-/

namespace HttpKit

variable {ω : Type}

/-! ## What is written on a connection -/

/-- Whether a connection brings a request: its socket is open, the handshake succeeds, and what its
peer sends is read as the request. -/
structure Receives (encryption : Option Encryption) (c : Connection) (request : Request) :
    Prop where
  isOpen : c.isOpen = true
  shaken : ∀ encrypt ∈ encryption, encrypt.shake c.peer = .done
  read : ∃ stream ∈ c.peer.stream,
    (Wire.readRequest defaultLineLimit (some c.peer.address) stream).1 = .ok request

/-- The response that an application's outcome calls for. There is none for a reply that is no
response. -/
inductive Answers : Except Fault Reply → Response → Prop where
  | given (r : Response) : Answers (.ok (.response r)) r
  | nothing : Answers (.ok .nothing) (.text 204 "")
  | fault (f : Fault) : Answers (.error f) (.text 500 "Internal Server Error")

/-- An outcome calls for a response unless it is a reply that is none. -/
theorem answers_or_datum (outcome : Except Fault Reply) :
    (∃ r, Answers outcome r) ∨ ∃ value, outcome = .ok (.datum value) := by
  match outcome with
  | .error f => exact Or.inl ⟨_, .fault f⟩
  | .ok .nothing => exact Or.inl ⟨_, .nothing⟩
  | .ok (.response r) => exact Or.inl ⟨r, .given r⟩
  | .ok (.datum value) => exact Or.inr ⟨value, rfl⟩

/-- A handler whose outcome calls for a response is answered for with it. -/
theorem Handler.invoke_of_answers {h : Handler ω} {request : Request}
    {outcome : Except Fault Reply} {r : Response} {j j' : Journal ω}
    (hrun : (h request).run.run j = (outcome, j')) (hr : Answers outcome r) :
    (h.invoke request).run j = (.response r, j') := by
  rw [Handler.invoke, StateT.run_bind, hrun]
  cases hr <;> rfl

/-- What is written on a connection, and the journal after it. -/
inductive Exchanged (app : Handler ω) (encryption : Option Encryption) (c : Connection)
    (j : Journal ω) : List Bytes → Journal ω → Prop where
  /-- Without a request the application does not run and nothing is written. -/
  | unread (h : ∀ request, ¬Receives encryption c request) : Exchanged app encryption c j [] j
  /-- The response is written, once and as a whole. -/
  | answered {request : Request} {outcome : Except Fault Reply} {r : Response} {bytes : Bytes}
      {j' : Journal ω} (h : Receives encryption c request)
      (hrun : (app request).run.run j = (outcome, j')) (hr : Answers outcome r)
      (hbytes : r.toBytes? = some bytes) : Exchanged app encryption c j [bytes] j'
  /-- A response that has no bytes is not written. -/
  | unencodable {request : Request} {outcome : Except Fault Reply} {r : Response} {j' : Journal ω}
      (h : Receives encryption c request) (hrun : (app request).run.run j = (outcome, j'))
      (hr : Answers outcome r) (hbytes : r.toBytes? = none) : Exchanged app encryption c j [] j'
  /-- A reply that is no response is not written. -/
  | noResponse {request : Request} {value : Json} {j' : Journal ω}
      (h : Receives encryption c request)
      (hrun : (app request).run.run j = (.ok (.datum value), j')) :
      Exchanged app encryption c j [] j'

theorem Exchanged.length_le_one {app : Handler ω} {encryption : Option Encryption} {c : Connection}
    {j j' : Journal ω} {writes : List Bytes} (h : Exchanged app encryption c j writes j') :
    writes.length ≤ 1 := by
  cases h <;> simp

namespace Exchange

variable {α β : Type} {c c' : Connection} {j j' : Journal ω}

/-! ## Sequences of parts -/

/-- What an exchange comes to on a connection. -/
def on (m : Exchange ω α) (c : Connection) (j : Journal ω) :
    (Except Drop α × Connection) × Journal ω :=
  (m.run.run c).run j

theorem on_bind_ok {m : Exchange ω α} {a : α} (h : m.on c j = ((.ok a, c'), j'))
    (f : α → Exchange ω β) : (m >>= f).on c j = (f a).on c' j' := by
  rw [on] at h ⊢
  rw [ExceptT.run_bind, StateT.run_bind, StateT.run_bind, h]
  rfl

theorem on_bind_error {m : Exchange ω α} {e : Drop} (h : m.on c j = ((.error e, c'), j'))
    (f : α → Exchange ω β) : (m >>= f).on c j = ((.error e, c'), j') := by
  rw [on] at h ⊢
  rw [ExceptT.run_bind, StateT.run_bind, StateT.run_bind, h]
  rfl

/-! ## The parts -/

theorem on_enter (phase : Phase) (c : Connection) (j : Journal ω) :
    (enter phase).on c j = ((.ok (), { c with phase }), j) := rfl

theorem on_get (c : Connection) (j : Journal ω) :
    (get : Exchange ω Connection).on c j = ((.ok c, c), j) := rfl

theorem on_peer_of_open (h : c.isOpen = true) (j : Journal ω) :
    peer.on c j = ((.ok c.peer, c), j) := by
  rw [peer, on_bind_ok (on_get c j), if_pos h]
  rfl

theorem on_peer_of_shut (h : c.isOpen = false) (j : Journal ω) :
    peer.on c j = ((.error .shut, c), j) := by
  rw [peer, on_bind_ok (on_get c j), if_neg (by simp [h])]
  rfl

/-- The handshake with a peer that is not silent breaks off, and then the connection brings no
request, or it succeeds. In either case it lets go of the socket. -/
theorem shakeHands_cases {stream : Stream} (hs : c.peer.stream = some stream)
    (encryption : Option Encryption) (j : Journal ω) :
    (∃ e phase isOpen, (shakeHands encryption).on c j = ((.error e, { c with phase, isOpen }), j)
        ∧ (phase = .shaking → isOpen = false) ∧ ∀ request, ¬Receives encryption c request)
      ∨ ∃ phase, (shakeHands encryption).on c j = ((.ok true, { c with phase }), j)
        ∧ (c.isOpen = true → ∀ encrypt ∈ encryption, encrypt.shake c.peer = .done) := by
  cases encryption with
  | none => exact Or.inr ⟨c.phase, rfl, fun _ => by simp⟩
  | some encryption =>
    rcases Bool.eq_false_or_eq_true c.isOpen with ho | ho
    · rw [shakeHands, on_bind_ok (on_peer_of_open ho j), on_bind_ok (on_enter .shaking c j)]
      cases ht : encryption.shake c.peer with
      | done =>
        exact Or.inr ⟨.new, rfl, fun _ other hother => Option.mem_some.mp hother ▸ ht⟩
      | failed trouble =>
        refine Or.inl ⟨.handshake trouble, .new, false, rfl, by simp, fun request h => ?_⟩
        have hdone := h.shaken encryption rfl
        rw [ht] at hdone
        cases hdone
      | pending => exact absurd (hs.symm.trans (encryption.stream_of_pending _ ht)) (by simp)
    · refine Or.inl ⟨.shut, c.phase, c.isOpen, on_bind_error (on_peer_of_shut ho j) _,
        fun _ => ho, fun request h => ?_⟩
      exact absurd (ho.symm.trans h.isOpen) Bool.false_ne_true

/-- Reading breaks off, and then the connection brings no request, or it gives the request that is
read from the stream. -/
theorem readRequest_cases {stream : Stream} (hs : c.peer.stream = some stream) (j : Journal ω) :
    (∃ e, readRequest.on c j = ((.error e, { c with phase := .reading }), j)
        ∧ ∀ encryption request, ¬Receives encryption c request)
      ∨ ∃ request, readRequest.on c j = ((.ok (some request), { c with phase := .reading }), j)
        ∧ c.isOpen = true
        ∧ (Wire.readRequest defaultLineLimit (some c.peer.address) stream).1 = .ok request := by
  rw [readRequest, on_bind_ok (on_enter .reading c j)]
  cases ho : c.isOpen with
  | false =>
    refine Or.inl ⟨.shut, on_bind_error (on_peer_of_shut rfl j) _, fun encryption request h => ?_⟩
    exact absurd (ho.symm.trans h.isOpen) Bool.false_ne_true
  | true =>
    rw [on_bind_ok (on_peer_of_open rfl j)]
    simp only [hs]
    cases hr : (Wire.readRequest defaultLineLimit (some c.peer.address) stream).1 with
    | ok request => exact Or.inr ⟨request, rfl, trivial, rfl⟩
    | error e =>
      refine Or.inl ⟨.request e, rfl, fun encryption request h => ?_⟩
      obtain ⟨stream', hs', hr'⟩ := h.read
      obtain rfl : stream = stream' := Option.some.inj (hs.symm.trans hs')
      exact absurd (hr.symm.trans hr') (by simp)

section Respond

variable {app : Handler ω} {request : Request} {outcome : Except Fault Reply}

/-- The journal of an application's run is kept, whatever its outcome. -/
theorem on_invoke {reply : Reply} (h : (app.invoke request).run j = (reply, j')) :
    (liftM (app.invoke request) : Exchange ω Reply).on c j = ((.ok reply, c), j') := by
  show ((Except.ok ((app.invoke request).run j).1, c), ((app.invoke request).run j).2) = _
  rw [h]

/-- An outcome that calls for a response gives it. -/
theorem respond_of_answers {r : Response} (hrun : (app request).run.run j = (outcome, j'))
    (hr : Answers outcome r) :
    (respond app request).on c j = ((.ok r, { c with phase := .processing }), j') := by
  have hinvoke := Handler.invoke_of_answers hrun hr
  rw [respond, on_bind_ok (on_enter .processing c j), on_bind_ok (on_invoke hinvoke)]
  rfl

/-- A reply that is no response breaks off the exchange. -/
theorem respond_of_datum {value : Json}
    (hrun : (app request).run.run j = (.ok (.datum value), j')) :
    ∃ e, (respond app request).on c j = ((.error e, { c with phase := .processing }), j') := by
  have hinvoke : (app.invoke request).run j = (.datum value, j') := by
    rw [Handler.invoke, StateT.run_bind, hrun]
    rfl
  refine ⟨.reply (.missingMember value "to_bytes"), ?_⟩
  rw [respond, on_bind_ok (on_enter .processing c j), on_bind_ok (on_invoke hinvoke)]
  rfl

end Respond

theorem on_encode_of_some {r : Response} {bytes : Bytes} (h : r.toBytes? = some bytes)
    (c : Connection) (j : Journal ω) : (encode r).on c j = ((.ok bytes, c), j) := by
  rw [encode, h]
  rfl

theorem on_encode_of_none {r : Response} (h : r.toBytes? = none) (c : Connection)
    (j : Journal ω) : (encode r).on c j = ((.error .unencodable, c), j) := by
  rw [encode, h]
  rfl

/-- An open connection is written to once, whether or not that fails. -/
theorem on_send (ho : c.isOpen = true) (bytes : Bytes) (j : Journal ω) :
    (send bytes).on c j
      = ((match c.peer.sendTrouble with
          | none => .ok ()
          | some trouble => .error (.send trouble),
        { c with phase := .writing, writes := c.writes ++ [bytes] }), j) := by
  have hwrite : (modify fun c => { c with writes := c.writes ++ [bytes] } : Exchange ω Unit).on
      { c with phase := .writing } j
        = ((.ok (), { c with phase := .writing, writes := c.writes ++ [bytes] }), j) := rfl
  rw [send, on_bind_ok (on_enter .writing c j),
    on_bind_ok (on_peer_of_open (c := { c with phase := .writing }) ho j), on_bind_ok hwrite]
  cases c.peer.sendTrouble <;> rfl

/-! ## The whole exchange -/

/-- A request that was read is answered as the application's outcome calls for. -/
theorem on_answer {encryption : Option Encryption} {request : Request}
    (h : Receives encryption c request) (app : Handler ω) (j : Journal ω) :
    ∃ outcome phase writes j',
      (respond app request >>= fun response => do
          send (← encode response)
          return true).on c j
        = ((outcome, { c with phase, writes := c.writes ++ writes }), j')
      ∧ phase ≠ .shaking ∧ outcome ≠ .ok false ∧ Exchanged app encryption c j writes j' := by
  rcases hrun : (app request).run.run j with ⟨outcome, j'⟩
  rcases answers_or_datum outcome with ⟨r, hr⟩ | ⟨value, rfl⟩
  · rw [on_bind_ok (respond_of_answers hrun hr)]
    cases hb : r.toBytes? with
    | none =>
      refine ⟨.error .unencodable, .processing, [], j', ?_, by simp, by simp,
        .unencodable h hrun hr hb⟩
      rw [on_bind_error (on_encode_of_none hb _ j'), List.append_nil]
    | some bytes =>
      have hsend := on_send (c := { c with phase := .processing }) h.isOpen bytes j'
      rw [on_bind_ok (on_encode_of_some hb _ j')]
      -- A write that fails was made all the same.
      cases ht : c.peer.sendTrouble with
      | none =>
        simp only [ht] at hsend
        exact ⟨.ok true, .writing, [bytes], j', on_bind_ok hsend _, by simp, by simp,
          .answered h hrun hr hb⟩
      | some trouble =>
        simp only [ht] at hsend
        exact ⟨.error (.send trouble), .writing, [bytes], j', on_bind_error hsend _, by simp,
          by simp, .answered h hrun hr hb⟩
  · obtain ⟨e, hrespond⟩ := respond_of_datum (c := c) hrun
    refine ⟨.error e, .processing, [], j', ?_, by simp, by simp, .noResponse h hrun⟩
    rw [on_bind_error hrespond, List.append_nil]

/-- What a connection brings does not depend on how far it is. -/
theorem receives_phase_iff {encryption : Option Encryption} {request : Request} {phase : Phase} :
    Receives encryption { c with phase } request ↔ Receives encryption c request :=
  ⟨fun h => ⟨h.isOpen, h.shaken, h.read⟩, fun h => ⟨h.isOpen, h.shaken, h.read⟩⟩

theorem exchanged_phase_iff {app : Handler ω} {encryption : Option Encryption} {phase : Phase}
    {writes : List Bytes} :
    Exchanged app encryption { c with phase } j writes j'
      ↔ Exchanged app encryption c j writes j' := by
  constructor <;> intro h <;> cases h with
  | unread h => exact .unread fun request hr => h request (by simpa [receives_phase_iff] using hr)
  | answered h hrun hr hb => exact .answered (by simpa [receives_phase_iff] using h) hrun hr hb
  | unencodable h hrun hr hb =>
    exact .unencodable (by simpa [receives_phase_iff] using h) hrun hr hb
  | noResponse h hrun => exact .noResponse (by simpa [receives_phase_iff] using h) hrun

/-- **An exchange writes at most once, and then the response that the application's outcome calls
for.** It ends, for a peer that is not silent, and no handshake holds the socket then. -/
theorem on_serve {stream : Stream} (hs : c.peer.stream = some stream) (app : Handler ω)
    (encryption : Option Encryption) (j : Journal ω) :
    ∃ outcome phase isOpen writes j',
      (serve app encryption).on c j
        = ((outcome, { c with phase, isOpen, writes := c.writes ++ writes }), j')
      ∧ (phase = .shaking → isOpen = false)
      ∧ outcome ≠ .ok false ∧ Exchanged app encryption c j writes j' := by
  rcases shakeHands_cases hs encryption j with
    ⟨e, phase, isOpen, hshake, hheld, hnone⟩ | ⟨phase, hshake, hdone⟩
  · refine ⟨.error e, phase, isOpen, [], j, ?_, hheld, by simp, .unread hnone⟩
    rw [serve, on_bind_error hshake, List.append_nil]
  rw [serve, on_bind_ok hshake, if_pos rfl, answer]
  rcases readRequest_cases (c := { c with phase }) hs j with
    ⟨e, hread, hnone⟩ | ⟨request, hread, ho, hr⟩
  · refine ⟨.error e, .reading, c.isOpen, [], j, ?_, by simp, by simp, .unread fun request h => ?_⟩
    · rw [on_bind_error hread, List.append_nil]
    · exact hnone encryption request (receives_phase_iff.mpr h)
  have hreceives : Receives encryption c request := ⟨ho, hdone ho, stream, hs, hr⟩
  rw [on_bind_ok hread]
  -- The request is there, so all depends on what the application makes of it.
  have hreading : Receives encryption { c with phase := .reading } request :=
    receives_phase_iff.mpr hreceives
  obtain ⟨outcome, phase', writes, j', hanswer, hphase, houtcome, hex⟩ :=
    on_answer hreading app j
  exact ⟨outcome, phase', c.isOpen, writes, j', hanswer, fun h => absurd h hphase, houtcome,
    exchanged_phase_iff.mp hex⟩

end Exchange

/-! ## The work on a connection -/

/-- Whether no handshake holds the open socket of a connection. -/
def Connection.Free (c : Connection) : Prop := c.phase = .shaking → c.isOpen = false

theorem Connection.close_of_free {c : Connection} (h : c.Free) :
    c.close = { c with phase := .closed, isOpen := false } := by
  rw [close, abort]
  split
  · next hphase => rw [← h hphase]
  · rfl

/-- A connection after the work on it: what was written, and nothing left open. -/
def Connection.over (c : Connection) (writes : List Bytes) : Connection :=
  { c with phase := .closed, isOpen := false, writes := c.writes ++ writes, work := .ended }

namespace Server

/-- A server after the work on one of its connections. Nothing else of it has changed. -/
def afterWork (s : Server ω) (place : Nat) (c : Connection) : Server ω :=
  { s with connections := s.connections.set place c, tracked := s.tracked.filter (· ≠ place) }

variable {s : Server ω} {place : Nat} {c c' : Connection} {j j' : Journal ω}

/-- An exchange that has ended is followed by the release of the connection. -/
theorem work_of_served {outcome : Except Drop Bool} (hc : s.connections[place]? = some c)
    (hw : c.work = .waiting)
    (hserve : (Exchange.serve s.answering s.encryption).on c j = ((outcome, c'), j'))
    (ho : outcome ≠ .ok false) :
    (s.work place).run j = (s.afterWork place { c'.close with work := .ended }, j') := by
  have hrelease : (s.update place fun _ => c').acts place (releasing .ended)
      = s.afterWork place { c'.close with work := .ended } := by
    simp only [acts, releasing, List.foldl_cons, List.foldl_nil, act, mark, update, untrack,
      afterWork, List.modify_modify_eq, List.set_eq_modify]
    rfl
  have hrun : ((Exchange.serve s.answering s.encryption).run.run c).run j = ((outcome, c'), j') :=
    hserve
  rw [work, hc]
  simp only [hw, ne_eq, not_true_eq_false, if_false]
  rw [StateT.run_bind, hrun, ← hrelease]
  match outcome with
  | .error e => rfl
  | .ok true => rfl
  | .ok false => exact absurd rfl ho

/-- The work on a connection whose peer is not silent is over when it has been done. -/
theorem work_exchanged {stream : Stream} (hc : s.connections[place]? = some c)
    (hw : c.work = .waiting) (hs : c.peer.stream = some stream) (j : Journal ω) :
    ∃ writes j', (s.work place).run j = (s.afterWork place (c.over writes), j')
      ∧ Exchanged s.answering s.encryption c j writes j' := by
  obtain ⟨outcome, phase, isOpen, writes, j', hserve, hheld, ho, hex⟩ :=
    Exchange.on_serve hs s.answering s.encryption j
  refine ⟨writes, j', ?_, hex⟩
  have hfree : ({ c with phase, isOpen, writes := c.writes ++ writes } : Connection).Free := hheld
  rw [work_of_served hc hw hserve ho, Connection.close_of_free hfree]
  rfl

/-- **Once a worker has ended, no work is left on the connection.** -/
theorem work_of_ended (hc : s.connections[place]? = some c) (hw : c.work ≠ .waiting)
    (j : Journal ω) : (s.work place).run j = (s, j) := by
  rw [work, hc]
  simp only [if_pos hw]
  rfl

/-- **A connection carries at most one response, the right one, and is always released.** Whatever
the exchange on it breaks off with, the connection is closed and no longer waited for, what was
written on it is what its request calls for, and nothing more is ever written. The other
connections and the rest of the server are left alone. -/
theorem work_of_waiting {stream : Stream} (hc : s.connections[place]? = some c)
    (hw : c.work = .waiting) (hs : c.peer.stream = some stream) (j : Journal ω) :
    ∃ writes j',
      (s.work place).run j = (s.afterWork place (c.over writes), j')
      ∧ Exchanged s.answering s.encryption c j writes j' ∧ writes.length ≤ 1
      ∧ place ∉ (s.afterWork place (c.over writes)).tracked
      ∧ ∀ k, ((s.afterWork place (c.over writes)).work place).run k
          = (s.afterWork place (c.over writes), k) := by
  obtain ⟨writes, j', hwork, hex⟩ := work_exchanged hc hw hs j
  refine ⟨writes, j', hwork, hex, hex.length_le_one, ?_, ?_⟩
  · simp [afterWork]
  · intro k
    have hplace : place < s.connections.length := (List.getElem?_eq_some_iff.mp hc).1
    have hget : (s.afterWork place (c.over writes)).connections[place]? = some (c.over writes) :=
      List.getElem?_set_self hplace
    exact work_of_ended hget (by simp [Connection.over]) k

/-- A connection that brings a request for `/` and breaks when it is written to. -/
def brokenClient : Connection where
  peer := {
    address := [.text "192.0.2.7", .int 50000]
    stream := some (.memory ⟨utf8 "GET / HTTP/1.1\r\n\r\n"⟩)
    optionTrouble := none
    sendTrouble := some (.system "Broken pipe") }
  phase := .new
  isOpen := true
  writes := []
  work := .waiting

/-- A server with encryption whose application faults, between a connection that is over and one
that was not scheduled. -/
def faultyServer : Server Unit where
  settings := .default
  executor := .workers
  handler := none
  router := none
  chain := .empty
  encryption := some .immediate
  state := .running
  boundPort := some 8080
  listening := true
  accepting := true
  application := some ⟨.empty, some (.function fun _ => throw (.raised "ValueError" "boom"))⟩
  connections :=
    [(Connection.ofPeer brokenClient.peer).over [], brokenClient, .ofPeer brokenClient.peer]
  tracked := [1]

theorem work_brokenClient :
    faultyServer.connections[1]? = some brokenClient ∧ brokenClient.work = .waiting
      ∧ brokenClient.peer.stream = some (.memory ⟨utf8 "GET / HTTP/1.1\r\n\r\n"⟩)
      ∧ ∃ writes j',
        (faultyServer.work 1).run ⟨⟨[], [], ""⟩, [], ()⟩
            = (faultyServer.afterWork 1 (brokenClient.over writes), j')
          ∧ Exchanged faultyServer.answering faultyServer.encryption brokenClient
              ⟨⟨[], [], ""⟩, [], ()⟩ writes j'
          ∧ writes.length ≤ 1
          ∧ 1 ∉ (faultyServer.afterWork 1 (brokenClient.over writes)).tracked
          ∧ ∀ k, ((faultyServer.afterWork 1 (brokenClient.over writes)).work 1).run k
              = (faultyServer.afterWork 1 (brokenClient.over writes), k) :=
  ⟨rfl, rfl, rfl, work_of_waiting rfl rfl rfl ⟨⟨[], [], ""⟩, [], ()⟩⟩

/-- A response with half a character in a header. -/
def halfNamed : Response := (Response.text 200 "ok").withHeader "X" ⟨[.surrogate (.last _)]⟩

/-- A server that gives it to everyone. -/
def halfServer : Server Unit := {
  faultyServer with
  application := some ⟨.empty, some (.function fun _ => return .response halfNamed)⟩ }

theorem receives_brokenClient :
    ∃ request, Receives halfServer.encryption brokenClient request := by
  have hline : Wire.readRequestLine defaultLineLimit
      (Stream.memory ⟨utf8 "GET / HTTP/1.1\r\n\r\n"⟩)
      = (.ok ⟨.get, "/", "HTTP/1.1"⟩, .memory ⟨utf8 "\r\n"⟩) := rfl
  have hpairs : Wire.readPairs defaultLineLimit [] (Stream.memory ⟨utf8 "\r\n"⟩)
      = (.ok [], .memory ⟨[]⟩) := by
    rw [Wire.readPairs]
    rfl
  have hlength : declaredLength ((Headers.ofList ([] : List (String × String))).get?
      "Content-Length") = .ok 0 := rfl
  have hbody : Wire.readParts 0 [] (Stream.memory ⟨[]⟩) = (.ok [], .memory ⟨[]⟩) := by
    rw [Wire.readParts, if_pos rfl]
    rfl
  refine ⟨⟨.get, "/", "HTTP/1.1", .empty, [], [], some brokenClient.peer.address⟩, rfl, ?_, _,
    rfl, ?_⟩
  · intro encrypt h
    obtain rfl := Option.some.inj h
    rfl
  · rw [Wire.readRequest, hline]
    simp only [Wire.readHeaders, hpairs, Except.map, hlength, Wire.readBody, hbody]
    rfl

/-- **A response that has no bytes is not written**, though the request for it was read. -/
theorem work_halfNamed :
    (∃ request, Receives halfServer.encryption brokenClient request)
      ∧ (∀ request j, (halfServer.answering request).run.run j = (.ok (.response halfNamed), j))
      ∧ ∃ j', (halfServer.work 1).run ⟨⟨[], [], ""⟩, [], ()⟩
        = (halfServer.afterWork 1 (brokenClient.over []), j') := by
  have hanswer : ∀ request j, (halfServer.answering request).run.run j
      = (.ok (.response halfNamed), j) := fun _ _ => rfl
  refine ⟨receives_brokenClient, hanswer, ?_⟩
  have hbroken : halfServer.connections[1]? = some brokenClient := rfl
  obtain ⟨writes, j', hwork, hex⟩ := work_exchanged hbroken rfl rfl ⟨⟨[], [], ""⟩, [], ()⟩
  refine ⟨j', ?_⟩
  cases hex with
  | answered _ hrun hr hbytes =>
    rw [hanswer] at hrun
    obtain ⟨rfl, -⟩ := Prod.mk.inj hrun
    cases hr
    have hnone : halfNamed.toBytes? = none := by decide
    exact absurd (hnone.symm.trans hbytes) (by simp)
  | unread => exact hwork
  | unencodable => exact hwork
  | noResponse => exact hwork

end Server

end HttpKit
