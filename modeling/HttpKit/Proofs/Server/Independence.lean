import HttpKit.Proofs.Server.Accepting

/-!
# Connections on their own

Where the outcome of the application depends on the request alone, a connection comes to the same
whatever other connections there are, and in whatever order their workers run: at once when it is
accepted, or later (`connections_independent`). `Server.alone` is what it comes to when there is no
other.

## How the argument goes

* of a connection that was handed over the work makes one thing only, whatever the journal is when
  the worker begins (`Served.unique`)
* `Underway` says of all connections that each is served, or handed over with its turn to come.
  Every turn keeps it, since the work on one connection leaves the others as they are
  (`Underway.accept`, `Underway.work`), and at the end no turn is left to come
-/

namespace HttpKit

variable {ω : Type}

/-! ## What a connection comes to -/

/-- Whether the outcome of a handler depends on the request alone. -/
def Handler.Pure (app : Handler ω) : Prop :=
  ∀ request j j', ((app request).run.run j).1 = ((app request).run.run j').1

theorem Receives.unique {encryption : Option Encryption} {c : Connection}
    {request request' : Request} (h : Receives encryption c request)
    (h' : Receives encryption c request') : request = request' := by
  obtain ⟨stream, hs, hr⟩ := h.read
  obtain ⟨stream', hs', hr'⟩ := h'.read
  obtain rfl : stream = stream' := Option.some.inj (hs.symm.trans hs')
  exact Except.ok.inj (hr.symm.trans hr')

theorem Answers.unique {outcome : Except Fault Reply} {r r' : Response} (h : Answers outcome r)
    (h' : Answers outcome r') : r = r' := by
  cases h <;> cases h' <;> rfl

/-- **What is written on a connection depends on nothing that an application leaves in the
journal.** -/
theorem Exchanged.writes_unique {app : Handler ω} (happ : app.Pure)
    {encryption : Option Encryption} {c : Connection} {j j' k k' : Journal ω}
    {writes writes' : List Bytes} (h : Exchanged app encryption c j writes j')
    (h' : Exchanged app encryption c k writes' k') : writes = writes' := by
  have houtcome {request request' : Request} {outcome outcome' : Except Fault Reply}
      (hreceives : Receives encryption c request) (hreceives' : Receives encryption c request')
      (hrun : (app request).run.run j = (outcome, j'))
      (hrun' : (app request').run.run k = (outcome', k')) : outcome = outcome' := by
    obtain rfl := hreceives.unique hreceives'
    have h := happ request j k
    rwa [hrun, hrun'] at h
  cases h with
  | unread hnone =>
    cases h' with
    | answered hreceives => exact absurd hreceives (hnone _)
    | _ => rfl
  | answered hreceives hrun hr hbytes =>
    cases h' with
    | unread hnone => exact absurd hreceives (hnone _)
    | answered hreceives' hrun' hr' hbytes' =>
      obtain rfl := houtcome hreceives hreceives' hrun hrun'
      obtain rfl := hr.unique hr'
      rw [Option.some.inj (hbytes.symm.trans hbytes')]
    | unencodable hreceives' hrun' hr' hbytes' =>
      obtain rfl := houtcome hreceives hreceives' hrun hrun'
      obtain rfl := hr.unique hr'
      exact absurd (hbytes.symm.trans hbytes') (by simp)
    | noResponse hreceives' hrun' =>
      obtain rfl := houtcome hreceives hreceives' hrun hrun'
      cases hr
  | unencodable hreceives hrun hr hbytes =>
    cases h' with
    | answered hreceives' hrun' hr' hbytes' =>
      obtain rfl := houtcome hreceives hreceives' hrun hrun'
      obtain rfl := hr.unique hr'
      exact absurd (hbytes.symm.trans hbytes') (by simp)
    | _ => rfl
  | noResponse hreceives hrun =>
    cases h' with
    | answered hreceives' hrun' hr' =>
      obtain rfl := houtcome hreceives hreceives' hrun hrun'
      cases hr'
    | _ => rfl

/-- Whether a connection of a peer has been served. -/
def Served (app : Handler ω) (encryption : Option Encryption) (p : Peer) (c : Connection) : Prop :=
  ∃ j writes j', Exchanged app encryption (.handed p) j writes j'
    ∧ c = (Connection.handed p).over writes

theorem Served.unique {app : Handler ω} (happ : app.Pure) {encryption : Option Encryption}
    {p : Peer} {c c' : Connection} (h : Served app encryption p c)
    (h' : Served app encryption p c') : c = c' := by
  obtain ⟨j, writes, j', hex, rfl⟩ := h
  obtain ⟨k, writes', k', hex', rfl⟩ := h'
  rw [hex.writes_unique happ hex']

theorem Served.work {app : Handler ω} {encryption : Option Encryption} {p : Peer} {c : Connection}
    (h : Served app encryption p c) : c.work = .ended := by
  obtain ⟨j, writes, j', -, rfl⟩ := h
  rfl

/-! ## Turns -/

/-- What happens on a server next: someone is accepted, or a worker runs. -/
inductive Turn where
  | accept (p : Peer)
  | work (place : Nat)

/-- Who is accepted. -/
def visitors (turns : List Turn) : List Peer :=
  turns.filterMap fun
    | .accept p => some p
    | .work _ => none

/-- Whether a connection can be set up and its peer is not silent. -/
def Peer.Speaks (p : Peer) : Prop := p.optionTrouble = none ∧ p.stream.isSome = true

/-- Whether every worker has its turn, those of connections from some place on: at once when the
connection is accepted, or later. -/
def Completes (executor : Executor) : Nat → List Turn → Prop
  | _, [] => True
  | place, .accept _ :: rest =>
    (executor place = .atOnce ∨ executor place = .later ∧ .work place ∈ rest)
      ∧ Completes executor (place + 1) rest
  | place, .work _ :: rest => Completes executor place rest

namespace Server

/-- The server after a turn. -/
def turn (s : Server ω) : Turn → StateM (Journal ω) (Server ω)
  | .accept p => s.accept (.peer p)
  | .work place => s.work place

/-- A server without connections, each of which will have a worker of its own. -/
def bare (s : Server ω) : Server ω :=
  { s with connections := [], tracked := [], executor := .workers }

/-- The server after it has served a peer and nobody else. -/
def alone (s : Server ω) (p : Peer) (j : Journal ω) : Server ω :=
  (([.accept p, .work 0].foldlM turn s.bare).run j).1

/-- Where the connections of a server are, with some turns still to come, that accepted peers one
after the other: each is served, or it was handed over and the turn of its worker is to come. -/
structure Underway (s₀ : Server ω) (peers : List Peer) (rest : List Turn) (s : Server ω) :
    Prop where
  same : s₀.SameApart s
  length : s.connections.length = s₀.connections.length + peers.length
  each : ∀ i p, peers[i]? = some p → ∃ c, s.connections[s₀.connections.length + i]? = some c
    ∧ (Served s₀.answering s₀.encryption p c
      ∨ c = .handed p ∧ .work (s₀.connections.length + i) ∈ rest)
  tracked : ∀ place ∈ s.tracked, s₀.connections.length ≤ place
    ∧ ∃ c, s.connections[place]? = some c ∧ c.work = .waiting

theorem work_handed {s : Server ω} {place : Nat} {p : Peer}
    (hc : s.connections[place]? = some (.handed p)) (hp : p.Speaks) (j : Journal ω) :
    ∃ c, ((s.work place).run j).1 = s.afterWork place c
      ∧ Served s.answering s.encryption p c := by
  obtain ⟨stream, hs⟩ := Option.isSome_iff_exists.mp hp.2
  obtain ⟨writes, j', hwork, hex⟩ := work_exchanged hc rfl hs j
  exact ⟨_, congrArg Prod.fst hwork, j, writes, j', hex, rfl⟩

namespace Underway

variable {s₀ s : Server ω} {peers : List Peer} {rest rest' : List Turn} {p : Peer} {place : Nat}
  {j : Journal ω}

theorem begin (h : s.tracked = []) (rest : List Turn) : s.Underway [] rest s :=
  ⟨.refl s, rfl, by simp, by simp [h]⟩

theorem mono (h : s₀.Underway peers rest s)
    (hrest : ∀ place, .work place ∈ rest → .work place ∈ rest') : s₀.Underway peers rest' s where
  same := h.same
  length := h.length
  each i p hp := by
    obtain ⟨c, hc, hserved | ⟨rfl, hcoming⟩⟩ := h.each i p hp
    · exact ⟨c, hc, Or.inl hserved⟩
    · exact ⟨_, hc, Or.inr ⟨rfl, hrest _ hcoming⟩⟩
  tracked := h.tracked

/-- A connection that is waited for is one that was handed over, with its turn to come. -/
theorem handed_of_tracked (h : s₀.Underway peers rest s) (hplace : place ∈ s.tracked) :
    ∃ p ∈ peers, s.connections[place]? = some (.handed p) ∧ .work place ∈ rest := by
  obtain ⟨hle, c, hc, hw⟩ := h.tracked place hplace
  obtain ⟨i, rfl⟩ := Nat.exists_eq_add_of_le hle
  have hi : i < peers.length := by
    have := (List.getElem?_eq_some_iff.mp hc).1
    have := h.length
    omega
  obtain ⟨c', hc', hserved | ⟨rfl, hcoming⟩⟩ := h.each i _ (List.getElem?_eq_getElem hi)
  · obtain rfl : c = c' := Option.some.inj (hc.symm.trans hc')
    exact absurd (hw.symm.trans hserved.work) (by decide)
  · exact ⟨_, List.getElem_mem hi, hc', hcoming⟩

/-- **The turn of a worker** serves its connection, if that has not been done. -/
theorem work (h : s₀.Underway peers (.work place :: rest) s) (hpeers : ∀ p ∈ peers, p.Speaks)
    (j : Journal ω) : s₀.Underway peers rest ((s.work place).run j).1 where
  same := h.same.trans (sameApart_work s place j)
  length := by rw [length_work, h.length]
  each i p hp := by
    obtain ⟨c, hc, hstate⟩ := h.each i p hp
    -- The worker's own connection is served now or was before; the others are left as they are.
    by_cases hplace : place = s₀.connections.length + i
    · subst hplace
      rcases hstate with hserved | ⟨rfl, -⟩
      · refine ⟨c, ?_, Or.inl hserved⟩
        rw [work_of_ended hc (by rw [hserved.work]; decide)]
        exact hc
      · obtain ⟨c', hwork, hserved⟩ := work_handed hc (hpeers p (List.mem_of_getElem? hp)) j
        rw [h.same.answering, h.same.encryption] at hserved
        refine ⟨c', ?_, Or.inl hserved⟩
        rw [hwork]
        exact List.getElem?_set_self (List.getElem?_eq_some_iff.mp hc).1
    · have hne : Turn.work (s₀.connections.length + i) ≠ .work place := fun h =>
        hplace (Turn.work.inj h).symm
      refine ⟨c, (getElem?_work_of_ne hplace s j).trans hc, hstate.imp_right ?_⟩
      exact fun ⟨hc, hcoming⟩ => ⟨hc, (List.mem_cons.mp hcoming).resolve_left hne⟩
  tracked other hother := by
    -- What is still waited for is not the connection of the worker that has had its turn.
    have hbefore := mem_tracked_of_work hother
    by_cases hplace : place = other
    · subst hplace
      obtain ⟨p, hp, hc, -⟩ := h.handed_of_tracked hbefore
      obtain ⟨c', hwork, -⟩ := work_handed hc (hpeers p hp) j
      simp [hwork, afterWork] at hother
    · rw [getElem?_work_of_ne hplace]
      exact h.tracked other hbefore

/-- A connection that is handed over waits for its worker. -/
theorem handOver (h : s₀.Underway peers (.accept p :: rest) s) :
    s₀.Underway (peers ++ [p]) (.work s.connections.length :: rest)
      ((s.arrive p).act s.connections.length .handOver) where
  same := h.same.trans ⟨_, _, rfl⟩
  length := by rw [connections_handOver, List.length_append, List.length_append, h.length]; rfl
  each i q hq := by
    rw [connections_handOver]
    by_cases hi : i < peers.length
    · rw [List.getElem?_append_left hi] at hq
      obtain ⟨c, hc, hstate⟩ := h.each i q hq
      have hplace := (List.getElem?_eq_some_iff.mp hc).1
      refine ⟨c, (List.getElem?_append_left hplace).trans hc, hstate.imp_right fun ⟨hc, h⟩ => ?_⟩
      exact ⟨hc, List.mem_cons_of_mem _ ((List.mem_cons.mp h).resolve_left (by simp))⟩
    · have hlt := (List.getElem?_eq_some_iff.mp hq).1
      rw [List.length_append, List.length_singleton] at hlt
      obtain rfl : i = peers.length := by omega
      obtain rfl : p = q := Option.some.inj (List.getElem?_concat_length.symm.trans hq)
      rw [← h.length]
      exact ⟨.handed p, List.getElem?_concat_length, Or.inr ⟨rfl, List.mem_cons_self⟩⟩
  tracked place hplace := by
    rw [connections_handOver]
    rcases List.mem_append.mp hplace with hplace | hplace
    · obtain ⟨hle, c, hc, hw⟩ := h.tracked place hplace
      have hlt := (List.getElem?_eq_some_iff.mp hc).1
      exact ⟨hle, c, (List.getElem?_append_left hlt).trans hc, hw⟩
    · obtain rfl := List.mem_singleton.mp hplace
      exact ⟨by rw [h.length]; omega, .handed p, List.getElem?_concat_length, rfl⟩

/-- **Accepting a connection** hands it over, and may serve it at once. -/
theorem accept (h : s₀.Underway peers (.accept p :: rest) s) (haccepting : s₀.accepting = true)
    (hpeers : ∀ q ∈ peers ++ [p], q.Speaks)
    (hturn : s₀.executor s.connections.length = .atOnce
      ∨ s₀.executor s.connections.length = .later ∧ .work s.connections.length ∈ rest)
    (j : Journal ω) : s₀.Underway (peers ++ [p]) rest ((s.accept (.peer p)).run j).1 := by
  have hp : p.Speaks := hpeers p (by simp)
  have haccept : s.accept (.peer p) = (s.arrive p).schedule s.connections.length := by
    unfold Server.accept
    rw [if_neg (by simp [h.same.accepting, haccepting])]
    simp only [hp.1]
  have hexecutor : (s.arrive p).executor = s₀.executor := h.same.executor
  rw [haccept, schedule, hexecutor]
  -- The worker takes its turn right here, or it is known to have one among those to come.
  rcases hturn with hx | ⟨hx, hcoming⟩ <;> simp only [hx]
  · exact h.handOver.work hpeers j
  · refine h.handOver.mono fun place hplace => (List.mem_cons.mp hplace).elim (fun h => ?_) id
    exact h ▸ hcoming

/-- **Turns** serve everyone who is accepted. -/
theorem turns (haccepting : s₀.accepting = true) {turns : List Turn}
    (h : s₀.Underway peers turns s)
    (hpeers : ∀ q ∈ peers ++ visitors turns, q.Speaks)
    (hcomplete : Completes s₀.executor s.connections.length turns) (j : Journal ω) :
    s₀.Underway (peers ++ visitors turns) [] ((turns.foldlM turn s).run j).1 := by
  induction turns generalizing s peers j with
  | nil =>
    rw [visitors, List.filterMap_nil, List.append_nil]
    exact h
  | cons t rest ih =>
    cases t with
    | work place =>
      have hnow : ∀ q ∈ peers, q.Speaks := fun q hq => hpeers q (List.mem_append_left _ hq)
      refine ih (h.work hnow j) hpeers ?_ ((s.work place).run j).2
      rw [length_work]
      exact hcomplete
    | accept p =>
      have hvisitors : visitors (.accept p :: rest) = p :: visitors rest := rfl
      rw [hvisitors, List.append_cons] at hpeers ⊢
      have hnow : ∀ q ∈ peers ++ [p], q.Speaks := fun q hq => hpeers q (List.mem_append_left _ hq)
      have hnext := h.accept haccepting hnow hcomplete.1 j
      refine ih hnext hpeers ?_ ((s.accept (.peer p)).run j).2
      rw [hnext.length, List.length_append, List.length_singleton, ← Nat.add_assoc, ← h.length]
      exact hcomplete.2

/-- At the end everyone is served and nobody is waited for. -/
theorem finished (h : s₀.Underway peers [] s) :
    s.tracked = [] ∧ ∀ i p, peers[i]? = some p →
      ∃ c, s.connections[s₀.connections.length + i]? = some c
        ∧ Served s₀.answering s₀.encryption p c := by
  refine ⟨List.eq_nil_iff_forall_not_mem.mpr fun place hplace => ?_, fun i p hp => ?_⟩
  · obtain ⟨_, _, -, hcoming⟩ := h.handed_of_tracked hplace
    simp at hcoming
  · obtain ⟨c, hc, hstate⟩ := h.each i p hp
    exact ⟨c, hc, hstate.resolve_right (by simp)⟩

end Underway

variable {s : Server ω}

theorem served_alone (haccepting : s.accepting = true) {p : Peer} (hp : p.Speaks)
    (k : Journal ω) : ∃ c, (s.alone p k).connections[0]? = some c
      ∧ Served s.answering s.encryption p c := by
  have hbegin : s.bare.Underway [] [.accept p, .work 0] s.bare := .begin rfl _
  have hbare : s.bare.accepting = true := haccepting
  have hend := hbegin.turns hbare (by simpa [visitors] using hp)
    ⟨Or.inr ⟨rfl, List.mem_singleton.mpr rfl⟩, trivial⟩ k
  exact hend.finished.2 0 p rfl

/-- **Connections do not influence each other.** On a server that accepts and whose application
answers by the request alone, accept peers and run their workers in any order, each at once or
later: at the end nobody is waited for, and every connection is what it is when its peer is the
only one, whatever the journal is then. In particular the same was written to it. -/
theorem connections_independent (haccepting : s.accepting = true) (hnobody : s.tracked = [])
    (happ : s.answering.Pure) {turns : List Turn}
    (hpeers : ∀ p ∈ visitors turns, p.Speaks)
    (hcomplete : Completes s.executor s.connections.length turns) (j : Journal ω) :
    let s' := ((turns.foldlM turn s).run j).1
    s'.tracked = []
      ∧ s'.connections.length = s.connections.length + (visitors turns).length
      ∧ ∀ i p, (visitors turns)[i]? = some p → ∀ k,
        s'.connections[s.connections.length + i]? = (s.alone p k).connections[0]? := by
  intro s'
  have hbegin : s.Underway [] turns s := .begin hnobody turns
  have hend := hbegin.turns haccepting (by simpa using hpeers) hcomplete j
  rw [List.nil_append] at hend
  obtain ⟨htracked, hserved⟩ := hend.finished
  refine ⟨htracked, hend.length, fun i p hp k => ?_⟩
  obtain ⟨c, hc, hserved⟩ := hserved i p hp
  obtain ⟨c', hc', hserved'⟩ := served_alone haccepting (hpeers p (List.mem_of_getElem? hp)) k
  rw [hc, hc', hserved.unique happ hserved']

/-! ### Three connections at once -/

/-- An application that says which target was asked for, and faults where none is to be had. -/
def sayTarget : Handler Unit := fun request =>
  if request.method = .get then return .response (.text 200 request.target)
  else throw (.raised "ValueError" "boom")

/-- A server that does the work on its second connection at once. -/
def hasty : Server Unit :=
  ((made .default (some (.function sayTarget)) fun place =>
    if place = 1 then .atOnce else .later).start ⟨fun _ => none, 49152⟩).2

/-- A request, bytes that are none, and a request without a part of its body. The last two workers
have their turn in the order in which they were not accepted. -/
def threeSenders : List Turn :=
  [.accept (sender (utf8 "GET /a HTTP/1.1\r\n\r\n")), .accept (sender (utf8 "\r\n")),
    .accept (sender (utf8 "POST / HTTP/1.1\r\nContent-Length: 9\r\n\r\nabc")), .work 2, .work 0]

theorem connections_threeSenders :
    hasty.accepting = true ∧ hasty.tracked = [] ∧ hasty.answering.Pure
      ∧ (∀ p ∈ visitors threeSenders, p.Speaks) ∧ Completes hasty.executor 0 threeSenders
      ∧ ∀ j, let s' := ((threeSenders.foldlM turn hasty).run j).1
        s'.tracked = [] ∧ s'.connections.length = 3
          ∧ ∀ (i : Nat) p, (visitors threeSenders)[i]? = some p → ∀ k,
            s'.connections[i]? = (hasty.alone p k).connections[0]? := by
  have happ : hasty.answering.Pure := by
    intro request j j'
    show ((sayTarget request).run.run j).1 = ((sayTarget request).run.run j').1
    rw [sayTarget]
    split <;> rfl
  have hpeers : ∀ p ∈ visitors threeSenders, p.Speaks := by
    have hspeaks : ∀ bytes, (sender bytes).Speaks := fun _ => ⟨rfl, rfl⟩
    simp [visitors, threeSenders, hspeaks]
  have hcomplete : Completes hasty.executor hasty.connections.length threeSenders :=
    ⟨Or.inr ⟨rfl, .tail _ (.tail _ (.tail _ (.head _)))⟩, Or.inl rfl,
      Or.inr ⟨rfl, .head _⟩, trivial⟩
  refine ⟨rfl, rfl, happ, hpeers, hcomplete, fun j => ?_⟩
  obtain ⟨htracked, hlength, hsame⟩ := connections_independent rfl rfl happ hpeers hcomplete j
  refine ⟨htracked, hlength, fun i p hp k => ?_⟩
  rw [← hsame i p hp k]
  exact congrArg (_[·]?) (Nat.zero_add i).symm

end Server

end HttpKit
