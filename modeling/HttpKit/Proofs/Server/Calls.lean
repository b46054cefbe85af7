import HttpKit.Proofs.Server.Frame
import HttpKit.Proofs.Server.Tracking

/-!
# Calls as sequences of steps

What the functions of the server do is a sequence of steps, so that whatever is shown of every
sequence of steps holds of them. `reaches_call` has one case for every function, and `reaches_calls`
is the induction over calls that are made one after the other.

A call begins and ends where no thread is in the middle of something (`Moment.between`).
-/

namespace HttpKit

variable {ω : Type}

/-! ## Tasks that are done one after the other -/

namespace Moment

variable {m : Moment ω} {s s' : Server ω} {thread : Thread} {place : Nat} {rest rest' : List Task}

theorem goOn_goOn : (m.goOn s thread place rest).goOn s' thread place rest'
    = m.goOn s' thread place rest' := by
  simp [goOn]

theorem todo_goOn : (m.goOn s thread place rest).todo thread place = rest := by
  simp [goOn]

/-- Acts that are left to a thread are done one after the other. -/
theorem steps_acts {acts : List Act} (h : m.todo thread place = acts.map .act) :
    ∃ events, Steps m events (m.goOn (m.server.acts place acts) thread place []) := by
  induction acts generalizing m with
  | nil =>
    have hsame : m.goOn m.server thread place [] = m := by
      rw [List.map_nil] at h
      rw [goOn, ← h, Function.update_eq_self, Function.update_eq_self]
    refine ⟨[], ?_⟩
    show Steps m [] (m.goOn m.server thread place [])
    rw [hsame]
    exact .refl m
  | cons a acts ih =>
    obtain ⟨events, hsteps⟩ := ih (m := m.goOn (m.server.act place a) thread place (acts.map .act))
      todo_goOn
    rw [goOn_goOn] at hsteps
    exact ⟨_, hsteps.cons (.act h)⟩

/-- A worker goes from part to part of its exchange. -/
theorem steps_parts {c d : Connection} (h : m.todo .worker place = .exchange :: rest)
    (hc : m.server.connections[place]? = some c) (hparts : Parts c d) :
    ∃ events, Steps m events { m with server := m.server.update place fun _ => d } := by
  have hthere : ∀ d : Connection, (m.server.update place fun _ => d).connections[place]? = some d :=
    fun d => Server.getElem?_update hc _
  have hagain : ∀ (d : Connection) f, (m.server.update place fun _ => d).update place f
      = m.server.update place fun _ => f d := fun d f => m.server.update_update place _ f
  induction hparts with
  | refl =>
    rw [Server.update_self hc]
    exact ⟨[], .refl m⟩
  | @tail d d' _ hpart ih =>
    obtain ⟨events, hsteps⟩ := ih
    cases hpart with
    | advance writes hphase =>
      have hstep : Step _ (.progress place) _ :=
        .progress (m := { m with server := m.server.update place fun _ => d }) _ writes h
          (hthere d) hphase
      exact ⟨_, hagain d _ ▸ hsteps.step hstep⟩
    | failed hphase =>
      have hstep : Step _ (.fail place) _ :=
        .fail (m := { m with server := m.server.update place fun _ => d }) h (hthere d) hphase
      exact ⟨_, hagain d _ ▸ hsteps.step hstep⟩

/-! ## Between two calls -/

theorem tasks_between (s : Server ω) (place : Nat) : (between s).tasks place
    = only .worker (if (s.connections[place]?).any (·.work = .waiting) then serving else []) := by
  funext thread
  cases thread with
  | acceptor => rfl
  | worker => exact (only_self _ _).symm

/-- Whether a moment is as between two calls but for one connection. -/
structure Beside (s : Server ω) (place : Nat) (m : Moment ω) : Prop where
  leftover : m.leftover = none
  tasks : ∀ other, place ≠ other → m.tasks other = (between s).tasks other
  connections : ∀ other, place ≠ other →
    m.server.connections[other]? = s.connections[other]?

/-- Where nothing is in progress with that connection either, a call is over. -/
theorem Beside.eq_between {c : Connection} (h : Beside s place m)
    (hc : m.server.connections[place]? = some c)
    (htasks : m.tasks place = only .worker (if c.work = .waiting then serving else [])) :
    m = between m.server := by
  have hall : ∀ other, m.tasks other = (between m.server).tasks other := by
    intro other
    by_cases hother : place = other
    · subst hother
      rw [htasks, tasks_between, hc, Option.any_some]
      simp
    · rw [h.tasks other hother, tasks_between, tasks_between, h.connections other hother]
  obtain ⟨server, todo, leftover⟩ := m
  obtain rfl : leftover = none := h.leftover
  have htodo : todo = (between server).todo := by
    funext thread other
    exact congrFun (hall other) thread
  rw [htodo]
  rfl

theorem Beside.goOn (h : Beside s place m) {f : Connection → Connection}
    (hconnections : s'.connections = (m.server.update place f).connections) :
    Beside s place (m.goOn s' thread place rest) where
  leftover := h.leftover
  tasks other hother := (tasks_goOn_of_ne hother).trans (h.tasks other hother)
  connections other hother := by
    show s'.connections[other]? = _
    rw [hconnections, Server.getElem?_update_of_ne hother]
    exact h.connections other hother

/-- Acts that nobody else has a part in end where no work is left. -/
theorem Beside.steps_acts {acts : List Act} {c : Connection} (h : Beside s place m)
    (hc : m.server.connections[place]? = some c)
    (htasks : m.tasks place = only thread (acts.map .act))
    (hwork : (Act.onAll acts c).work ≠ .waiting) :
    ∃ events, Steps m events (.between (m.server.acts place acts)) := by
  have htodo : m.todo thread place = acts.map .act :=
    (congrFun htasks thread).trans (only_self _ _)
  obtain ⟨events, hsteps⟩ := Moment.steps_acts htodo
  have hconnections := m.server.connections_acts place acts
  have hover : m.goOn (m.server.acts place acts) thread place []
      = .between (m.server.acts place acts) := by
    refine (h.goOn hconnections).eq_between (c := Act.onAll acts c) ?_ ?_
    · show (m.server.acts place acts).connections[place]? = _
      rw [hconnections]
      exact Server.getElem?_update hc _
    · rw [Moment.tasks_goOn, htasks, update_only, only_nil, if_neg hwork, only_nil]
  exact ⟨events, hover ▸ hsteps⟩

end Moment

namespace Server

variable {s s' s'' : Server ω} {place : Nat} {c : Connection} {j j' : Journal ω}

/-- Whether steps lead from one server to another, both between two calls. -/
def Reaches (s s' : Server ω) : Prop := ∃ events, Steps (.between s) events (.between s')

theorem Reaches.refl (s : Server ω) : s.Reaches s := ⟨[], .refl _⟩

theorem Reaches.trans (h : s.Reaches s') (h' : s'.Reaches s'') : s.Reaches s'' := by
  obtain ⟨events, h⟩ := h
  obtain ⟨events', h'⟩ := h'
  exact ⟨events ++ events', h.trans h'⟩

/-- A change that leaves connections alone leaves to the threads what they had to do. -/
theorem between_of_same (h : s'.connections = s.connections) :
    { Moment.between s with server := s' } = Moment.between s' := by
  rw [Moment.between, Moment.between, h]

theorem reaches_of_step {e : Event} (hconnections : s'.connections = s.connections)
    (hs : Step (.between s) e { Moment.between s with server := s' }) : s.Reaches s' := by
  rw [between_of_same hconnections] at hs
  exact ⟨[e], .single hs⟩

/-! ## Work -/

/-- **The work on a connection is a sequence of steps of its worker.** -/
theorem reaches_work (s : Server ω) (place : Nat) (j : Journal ω) :
    s.Reaches ((s.work place).run j).1 := by
  cases hc : s.connections[place]? with
  | none =>
    have hrun : ((s.work place).run j).1 = s := by
      rw [work, hc]
      rfl
    rw [hrun]
    exact .refl s
  | some c =>
    by_cases hw : c.work = .waiting
    · obtain ⟨d, hparts, hrun⟩ := work_parts hc hw j
      have htasks : (Moment.between s).tasks place = only .worker serving := by
        rw [Moment.tasks_between, hc, Option.any_some, if_pos (by simpa using hw)]
      have htodo : (Moment.between s).todo .worker place
          = .exchange :: (releasing .ended).map .act :=
        (congrFun htasks .worker).trans (only_self _ _)
      obtain ⟨events, hsteps⟩ := Moment.steps_parts htodo hc hparts
      have hthere : (s.update place fun _ => d).connections[place]? = some d :=
        getElem?_update hc _
      have hbeside : Moment.Beside s place
          { Moment.between s with server := s.update place fun _ => d } :=
        ⟨rfl, fun _ _ => rfl, fun _ hother => getElem?_update_of_ne hother _⟩
      rcases hrun with hrun | ⟨hfree, hrun⟩ <;> rw [hrun]
      · -- The peer keeps the worker waiting, so that all is left to it still.
        have hover := hbeside.eq_between hthere (by
          rw [if_pos (hparts.keeps.2.trans hw)]
          exact htasks)
        exact ⟨events, hover ▸ hsteps⟩
      · have hserved := hsteps.step (.served htodo hthere hfree)
        have hreleasing := @Moment.Beside.goOn _ _ _ (s.update place fun _ => d) .worker place
          ((releasing .ended).map .act) hbeside id (List.modify_id _ _).symm
        obtain ⟨events', hrelease⟩ := hreleasing.steps_acts hthere
          (Moment.tasks_goOn.trans ((congrArg (Function.update · _ _) htasks).trans
            (update_only _ _ _)))
          (by simp [releasing, Act.onAll, Act.on])
        exact ⟨_, hserved.trans hrelease⟩
    · rw [work_of_ended hc hw]
      exact .refl s

/-- **So is the work on connections one after the other.** -/
theorem reaches_workAll (s : Server ω) (places : List Nat) (j : Journal ω) :
    s.Reaches ((s.workAll places).run j).1 := by
  induction places generalizing s j with
  | nil => exact .refl s
  | cons place places ih => exact (reaches_work s place j).trans (ih _ _)

/-! ## Accepting -/

/-- The moment after an arrival. -/
def arrived (s : Server ω) (p : Peer) : Moment ω :=
  (Moment.between s).goOn (s.arrive p) .acceptor s.connections.length p.program

theorem tasks_arrived (s : Server ω) (p : Peer) :
    (s.arrived p).tasks s.connections.length = only .acceptor p.program := by
  rw [arrived, Moment.tasks_goOn, Moment.tasks_between, List.getElem?_eq_none (Nat.le_refl _)]
  exact congrArg (Function.update · _ _) (only_nil .worker)

theorem getElem?_arrive (s : Server ω) (p : Peer) :
    (s.arrive p).connections[s.connections.length]? = some (.ofPeer p) :=
  List.getElem?_concat_length

theorem beside_arrived (s : Server ω) (p : Peer) :
    Moment.Beside s s.connections.length (s.arrived p) where
  leftover := rfl
  tasks other hother := Moment.tasks_goOn_of_ne hother
  connections other hother := by
    show (s.connections ++ [Connection.ofPeer p])[other]? = _
    rcases Nat.lt_or_ge other s.connections.length with hlt | hge
    · exact List.getElem?_append_left hlt
    · rw [List.getElem?_eq_none hge, List.getElem?_eq_none]
      rw [List.length_append, List.length_singleton]
      omega

theorem steps_arrived (ha : s.accepting = true) (p : Peer) :
    Steps (.between s) [.arrive] (s.arrived p) := .single (.arrive p ha fun _ => rfl)

/-- Dropping a connection is a sequence of steps. -/
theorem reaches_dropping (ha : s.accepting = true) {p : Peer} {trouble : Trouble}
    (ht : p.optionTrouble = some trouble) :
    s.Reaches ((s.arrive p).acts s.connections.length (p.dropping trouble)) := by
  have hprogram : p.program = (p.dropping trouble).map .act := by simp only [Peer.program, ht]
  have hwork : (Act.onAll (p.dropping trouble) (.ofPeer p)).work ≠ .waiting := by
    have hnone : (Connection.ofPeer p).abort.work = .none := Connection.work_abort _
    unfold Peer.dropping
    split
    · split <;> simp [Act.onAll, Act.on, Connection.close, hnone]
    · simp [Act.onAll, Act.on, Connection.ofPeer]
  obtain ⟨events, hsteps⟩ := (beside_arrived s p).steps_acts (getElem?_arrive s p)
    ((tasks_arrived s p).trans (congrArg _ hprogram)) hwork
  exact ⟨_, (steps_arrived ha p).trans hsteps⟩

/-- The moment after the work on a new connection was offered. -/
theorem steps_offered (ha : s.accepting = true) {p : Peer} (ht : p.optionTrouble = none) :
    ∃ m events, Steps (.between s) events m
      ∧ m.server = (s.arrive p).act s.connections.length .handOver
      ∧ m.tasks s.connections.length = (s.executor s.connections.length).left
      ∧ Moment.Beside s s.connections.length m := by
  have hprogram : p.program = [.act .handOver, .submit] := by simp only [Peer.program, ht]
  have htasks := (tasks_arrived s p).trans (congrArg _ hprogram)
  have htodo : (s.arrived p).todo .acceptor s.connections.length
      = .act .handOver :: [.submit] := (congrFun htasks .acceptor).trans (only_self _ _)
  have hhanded := (steps_arrived ha p).step (.act htodo)
  have hoffered := hhanded.step (@Step.submit _ _ _ [] Moment.todo_goOn)
  refine ⟨_, _, hoffered, rfl, ?_, ?_⟩
  · rw [Moment.tasks_goOn, Moment.tasks_goOn, Moment.tasks_goOn, htasks, update_only]
    exact update_offered _
  · have hbeside := @Moment.Beside.goOn _ _ _ _ .acceptor _ [.submit] (beside_arrived s p) _
      ((s.arrive p).connections_act s.connections.length .handOver)
    exact (hbeside.goOn (f := id) (List.modify_id _ _).symm).goOn (f := id)
      (List.modify_id _ _).symm

/-- **Scheduling is a sequence of steps**, whatever the executor does with the work. -/
theorem reaches_schedule (ha : s.accepting = true) {p : Peer} (ht : p.optionTrouble = none)
    (j : Journal ω) : s.Reaches (((s.arrive p).schedule s.connections.length).run j).1 := by
  obtain ⟨m, events, hsteps, hserver, htasks, hbeside⟩ := steps_offered ha ht
  have hc : m.server.connections[s.connections.length]?
      = some { Connection.ofPeer p with work := .waiting } := by
    rw [hserver, connections_act]
    exact getElem?_update (getElem?_arrive s p) _
  have hover : m.tasks s.connections.length = only .worker serving →
      s.Reaches ((s.arrive p).act s.connections.length .handOver) := fun hserving =>
    ⟨events, hserver ▸ hbeside.eq_between hc (by rw [hserving, if_pos rfl]) ▸ hsteps⟩
  have hacts : ∀ acts : List Act, m.tasks s.connections.length = only .acceptor (acts.map .act) →
      (Act.onAll acts { Connection.ofPeer p with work := .waiting }).work ≠ .waiting →
      s.Reaches (((s.arrive p).act s.connections.length .handOver).acts s.connections.length
        acts) := fun acts hleft hwork => by
    obtain ⟨events', hrest⟩ := hbeside.steps_acts hc hleft hwork
    exact ⟨_, hserver ▸ hsteps.trans hrest⟩
  have hexecutor : (s.arrive p).executor = s.executor := rfl
  unfold schedule
  rw [hexecutor]
  -- The steps go as far as the offer, and then as the answer to it says.
  cases hx : s.executor s.connections.length <;> rw [hx] at htasks
  case later => exact hover htasks
  case atOnce => exact (hover htasks).trans (reaches_work _ _ j)
  case rejected => exact hacts (releasing .rejected) htasks (by simp [releasing, Act.onAll, Act.on])
  case broken =>
    refine hacts [.lose, .close] htasks ?_
    have hlost : ({ Connection.ofPeer p with work := .lost } : Connection).abort.work = .lost :=
      Connection.work_abort _
    simp [Act.onAll, Act.on, Connection.close, hlost]

/-- **Accepting is a sequence of steps.** -/
theorem reaches_accept (s : Server ω) (arrival : Arrival) (j : Journal ω) :
    s.Reaches ((s.accept arrival).run j).1 := by
  unfold accept
  by_cases ha : s.accepting = true
  · rw [if_neg (by simp [ha])]
    match arrival with
    | .timedOut => exact .refl s
    | .failed trouble => exact reaches_of_step rfl (.endAccepting fun _ => rfl)
    | .peer p =>
      cases ht : p.optionTrouble with
      | none =>
        simp only [ht]
        exact reaches_schedule ha ht j
      | some trouble =>
        simp only [ht]
        exact reaches_dropping ha ht
  · rw [if_pos (by simp [ha])]
    exact .refl s

/-! ## Starting and configuring -/

theorem reaches_start (s : Server ω) (network : Network) : s.Reaches (s.start network).2 := by
  have hconnections : (s.start network).2.connections = s.connections := by
    rcases s.start_cases network with h | ⟨-, h, -⟩
    · rw [h]
    · exact h
  exact reaches_of_step hconnections (.start network)

theorem reaches_configure (s : Server ω) (handler : Option (Candidate (Handler ω)))
    (router : Option (Router ω)) (chain : Chain ω) (encryption : Option Encryption) :
    s.Reaches { s with handler, router, chain, encryption } :=
  reaches_of_step rfl (.configure handler router chain encryption)

/-- A change that is not refused is made. -/
theorem of_whileStopped {change : Change} {r : Except ConfigureError (Server ω)}
    (h : (s.whileStopped change >>= fun _ => r) = .ok s') : r = .ok s' := by
  unfold whileStopped at h
  split at h
  · exact h
  · exact absurd h (by simp [bind, Except.bind])

theorem reaches_of_setHandler {handler : Candidate (Handler ω)}
    (h : s.setHandler handler = .ok s') : s.Reaches s' := by
  obtain rfl := Except.ok.inj (of_whileStopped h)
  exact reaches_configure s (given handler) s.router s.chain s.encryption

theorem exists_chain_of_use {middleware : Candidate (Middleware ω)}
    (h : s.use middleware = .ok s') : ∃ chain, s' = { s with chain } := by
  have hchain := of_whileStopped h
  cases ha : (s.chain.append? middleware).mapError ConfigureError.notCallable with
  | error e => simp [ha, bind, Except.bind] at hchain
  | ok chain =>
    rw [ha] at hchain
    exact ⟨chain, (Except.ok.inj hchain).symm⟩

theorem reaches_of_use {middleware : Candidate (Middleware ω)} (h : s.use middleware = .ok s') :
    s.Reaches s' := by
  obtain ⟨chain, rfl⟩ := exists_chain_of_use h
  exact reaches_configure s s.handler s.router chain s.encryption

theorem reaches_of_encrypt {encryption : Encryption} (h : s.encrypt encryption = .ok s') :
    s.Reaches s' := by
  obtain rfl := Except.ok.inj (of_whileStopped h)
  exact reaches_configure s s.handler s.router s.chain (some encryption)

theorem reaches_route (s : Server ω)
    (change : Router ω → Except RegistrationError (Router ω)) : s.Reaches (s.route change).2 := by
  unfold route
  split
  · exact reaches_configure s s.handler _ s.chain s.encryption
  · exact reaches_configure s s.handler _ s.chain s.encryption

/-! ## Stopping -/

theorem reaches_endAccepting (s : Server ω) : s.Reaches s.endAccepting :=
  reaches_of_step rfl (.endAccepting fun _ => rfl)

theorem reaches_beginStop (hs : s.state = .running) : s.Reaches s.beginStop :=
  reaches_of_step rfl (.stop hs)

/-- Shuts connections one after the other. -/
def abortAll (s : Server ω) (places : List Nat) : Server ω :=
  places.foldl (fun s place => s.update place Connection.abort) s

theorem abortTracked_eq (s : Server ω) : s.abortTracked = s.abortAll s.tracked := rfl

theorem getElem?_abortAll (s : Server ω) (places : List Nat) (place : Nat) :
    (s.abortAll places).connections[place]?
      = (s.connections[place]?).map fun c => if place ∈ places then c.abort else c := by
  have htwice : ∀ c : Connection, c.abort.abort = c.abort := fun c => by
    unfold Connection.abort
    split <;> simp_all
  induction places generalizing s with
  | nil => simp [abortAll]
  | cons first places ih =>
    show ((s.update first Connection.abort).abortAll places).connections[place]? = _
    rw [ih]
    by_cases hplace : first = place
    · subst hplace
      cases hc : s.connections[first]? with
      | none => simp [update, hc]
      | some c => simp [getElem?_update hc, htwice]
    · rw [getElem?_update_of_ne hplace]
      simp [Ne.symm hplace]

/-- Shutting connections leaves to the workers what they had to do. -/
theorem todo_abortAll (s : Server ω) (places : List Nat) :
    (Moment.between (s.abortAll places)).todo = (Moment.between s).todo := by
  have htasks : ∀ place,
      (Moment.between (s.abortAll places)).tasks place = (Moment.between s).tasks place := by
    intro place
    rw [Moment.tasks_between, Moment.tasks_between, getElem?_abortAll]
    cases s.connections[place]? with
    | none => rfl
    | some c =>
      rw [Option.map_some, Option.any_some, Option.any_some]
      split <;> simp [c.work_abort]
  funext thread place
  exact congrFun (htasks place) thread

/-- The connections left over are shut one after the other. -/
theorem steps_abort (s : Server ω) {places : List Nat}
    (hplaces : ∀ place ∈ places, ∃ c, s.connections[place]? = some c) : ∃ events,
    Steps ⟨s, (Moment.between s).todo, some places⟩ events
      ⟨s.abortAll places, (Moment.between s).todo, some []⟩ := by
  induction places generalizing s with
  | nil => exact ⟨[], .refl _⟩
  | cons place places ih =>
    rw [List.forall_mem_cons] at hplaces
    obtain ⟨⟨c, hc⟩, hrest⟩ := hplaces
    have hstill : ∀ other ∈ places,
        ∃ d, (s.update place Connection.abort).connections[other]? = some d := by
      intro other ho
      obtain ⟨d, hd⟩ := hrest other ho
      have hone := s.getElem?_abortAll [place] other
      rw [hd] at hone
      exact ⟨_, hone⟩
    obtain ⟨events, hsteps⟩ := ih (s.update place Connection.abort) hstill
    have htodo : (Moment.between (s.update place Connection.abort)).todo
        = (Moment.between s).todo := s.todo_abortAll [place]
    rw [htodo] at hsteps
    by_cases hphase : c.phase = .shaking
    · exact ⟨_, hsteps.cons (.miss rfl hc hphase)⟩
    · exact ⟨_, hsteps.cons (.abort rfl hc hphase)⟩

/-- **A stop that runs ends in one of three ways**: accepting never began, or it would have to wait
for a time that cannot be counted, or it waits and shuts what is left. -/
theorem stop_cases (hs : s.state = .running) (inTime : List Nat) (j : Journal ω) :
    s.unbegun = true ∧ (s.stop inTime).run j = ((.error .neverBegan, s.beginStop), j)
      ∨ s.unbegun = false ∧ (s.tracked ≠ [] ∧ longestWait < s.settings.shutdownTimeout)
        ∧ (s.stop inTime).run j = ((.error .waitTooLong, s.beginStop.endAccepting.halted), j)
      ∨ s.unbegun = false ∧ ¬(s.tracked ≠ [] ∧ longestWait < s.settings.shutdownTimeout)
        ∧ ∃ n j', (s.stop inTime).run j = ((.ok n,
          ((s.beginStop.endAccepting.workAll inTime).run j).1.abortTracked.halted), j') := by
  have hwaits : (!s.tracked.isEmpty && longestWait < s.settings.shutdownTimeout) = true
      ↔ s.tracked ≠ [] ∧ longestWait < s.settings.shutdownTimeout := by simp
  unfold stop
  rw [if_neg (by simp [hs])]
  cases s.unbegun with
  | true => exact Or.inl ⟨rfl, rfl⟩
  | false =>
    refine Or.inr ?_
    by_cases hlong : s.tracked ≠ [] ∧ longestWait < s.settings.shutdownTimeout
    · simp only [hwaits.mpr hlong]
      exact Or.inl ⟨trivial, hlong, rfl⟩
    · simp only [eq_false_of_ne_true (mt hwaits.mp hlong)]
      exact Or.inr ⟨trivial, hlong, _, _, rfl⟩

variable {events : List Event} {inTime : List Nat} {n : Nat}

/-- Of the connections that were shut, what is not waited for any more was closed before. -/
theorem left_of_abortAll (h : Sound events (.between s)) {c : Connection}
    (hc : c ∈ (s.abortAll s.tracked).connections) :
    c.isOpen = false ∨ c.work = .waiting ∧ c.phase = .shaking ∨ c.Ignored := by
  obtain ⟨place, hc⟩ := List.mem_iff_getElem?.mp hc
  rw [getElem?_abortAll, Option.map_eq_some_iff] at hc
  obtain ⟨d, hd, rfl⟩ := hc
  have ha := h.accounted place d hd
  rcases (h.staged place d hd).closed_or_of_idle rfl with hp | hi | hw
  · refine Or.inl ?_
    split
    · exact Connection.isOpen_abort (ha.isOpen hp)
    · exact ha.isOpen hp
  · refine Or.inr (Or.inr ?_)
    split
    · exact hi.abort
    · exact hi
  · have htracked : place ∈ s.tracked := ha.tracked.mpr (Or.inl hw)
    rw [if_pos htracked, d.work_abort, d.phase_abort]
    by_cases hphase : d.phase = .shaking
    · exact Or.inr (Or.inl ⟨hw, hphase⟩)
    · exact Or.inl (by rw [Connection.abort, if_neg hphase])

/-- **A stop that returns is a sequence of steps the last of which halts the server.** -/
theorem steps_stop (h : Sound events (.between s)) (hs : s.state = .running)
    (hstop : (s.stop inTime).run j = ((.ok n, s'), j')) :
    ∃ m events', Steps (.between s) events' m ∧ Step m .halt (.between s')
      ∧ ∀ c ∈ s'.connections,
        c.isOpen = false ∨ c.work = .waiting ∧ c.phase = .shaking ∨ c.Ignored := by
  have hs' : s' = ((s.beginStop.endAccepting.workAll inTime).run j).1.abortTracked.halted := by
    rcases s.stop_cases hs inTime j with ⟨-, hrun⟩ | ⟨-, -, hrun⟩ | ⟨-, -, _, _, hrun⟩
    · exact absurd (congrArg (fun r => r.1.1) (hstop.symm.trans hrun)) (by simp)
    · exact absurd (congrArg (fun r => r.1.1) (hstop.symm.trans hrun)) (by simp)
    · exact congrArg (fun r => r.1.2) (hstop.symm.trans hrun)
  have hdrained := ((reaches_beginStop hs).trans s.beginStop.reaches_endAccepting).trans
    (s.beginStop.endAccepting.reaches_workAll inTime j)
  have hsame := sameApart_workAll s.beginStop.endAccepting inTime j
  generalize ((s.beginStop.endAccepting.workAll inTime).run j).1 = drained at *
  rw [abortTracked_eq] at hs'
  obtain ⟨events', hsteps⟩ := hdrained
  have hsound := h.steps hsteps
  -- The work that ends in time has ended when the time is over.
  have hdeadline := hsteps.step
    (.deadline hsame.state hsame.accepting (fun _ => rfl) rfl)
  obtain ⟨events'', habort⟩ := drained.steps_abort fun _ => hsound.exists_of_tracked
  have hhalt : Step ⟨drained.abortAll drained.tracked, (Moment.between drained).todo, some []⟩
      .halt (.between s') := by
    have hover : Moment.between s'
        = ⟨(drained.abortAll drained.tracked).halted, (Moment.between drained).todo, none⟩ := by
      rw [← drained.todo_abortAll drained.tracked, hs']
      rfl
    rw [hover]
    exact .halt rfl
  refine ⟨_, _, hdeadline.trans habort, hhalt, fun c hc => left_of_abortAll hsound ?_⟩
  rw [hs'] at hc
  exact hc

theorem stop_of_not_running (hs : s.state ≠ .running) (inTime : List Nat) (j : Journal ω) :
    (s.stop inTime).run j = ((.ok 0, s), j) := by
  unfold stop
  rw [if_pos hs]
  rfl

/-- A stop whose time cannot be counted leaves connections open. -/
theorem stop_of_longTime (hs : s.state = .running) (hbegun : s.unbegun = false)
    (htracked : s.tracked ≠ []) (hlong : longestWait < s.settings.shutdownTimeout)
    (inTime : List Nat) (j : Journal ω) :
    (s.stop inTime).run j = ((.error .waitTooLong, s.beginStop.endAccepting.halted), j) := by
  rcases s.stop_cases hs inTime j with ⟨hunbegun, -⟩ | ⟨-, -, hrun⟩ | ⟨-, hshort, -⟩
  · exact absurd (hbegun.symm.trans hunbegun) Bool.false_ne_true
  · exact hrun
  · exact absurd ⟨htracked, hlong⟩ hshort

theorem reaches_stop (h : Sound events (.between s)) (inTime : List Nat) (j : Journal ω) :
    s.Reaches ((s.stop inTime).run j).1.2 := by
  by_cases hs : s.state = .running
  · rcases s.stop_cases hs inTime j with ⟨-, hrun⟩ | ⟨-, hlong, hrun⟩ | ⟨-, -, n, j', hrun⟩
    · rw [hrun]
      exact reaches_beginStop hs
    · rw [hrun]
      refine ((reaches_beginStop hs).trans s.beginStop.reaches_endAccepting).trans ?_
      exact reaches_of_step rfl (.breakOff rfl rfl (fun _ => rfl) rfl hlong.1 hlong.2)
    · obtain ⟨m, events', hsteps, hhalt, -⟩ := steps_stop h hs hrun
      rw [hrun]
      exact ⟨_, .step hsteps hhalt⟩
  · rw [stop_of_not_running hs]
    exact .refl s

end Server

/-! ## Any calls -/

/-- A call of one of the server's functions. -/
inductive Call (ω : Type) where
  | start (network : Network)
  | setHandler (handler : Candidate (Handler ω))
  | use (middleware : Candidate (Middleware ω))
  | encrypt (encryption : Encryption)
  | route (change : Router ω → Except RegistrationError (Router ω))
  | accept (arrival : Arrival)
  | work (place : Nat)
  | stop (inTime : List Nat)

namespace Server

/-- The server after a call. -/
def call (s : Server ω) : Call ω → StateM (Journal ω) (Server ω)
  | .start network => return (s.start network).2
  | .setHandler handler => return (s.setHandler handler).toOption.getD s
  | .use middleware => return (s.use middleware).toOption.getD s
  | .encrypt encryption => return (s.encrypt encryption).toOption.getD s
  | .route change => return (s.route change).2
  | .accept arrival => s.accept arrival
  | .work place => s.work place
  | .stop inTime => return (← s.stop inTime).2

variable {s s' : Server ω} {events : List Event}

/-- A change that is refused leaves the server as it is. -/
theorem reaches_toOption {r : Except ConfigureError (Server ω)}
    (h : ∀ {s'}, r = .ok s' → s.Reaches s') : s.Reaches (r.toOption.getD s) := by
  cases r with
  | error e => exact .refl s
  | ok s' => exact h rfl

/-- **A call is a sequence of steps.** -/
theorem reaches_call (h : Sound events (.between s)) (call : Call ω) (j : Journal ω) :
    s.Reaches ((s.call call).run j).1 := by
  cases call with
  | start network => exact s.reaches_start network
  | setHandler handler => exact reaches_toOption reaches_of_setHandler
  | use middleware => exact reaches_toOption reaches_of_use
  | encrypt encryption => exact reaches_toOption reaches_of_encrypt
  | route change => exact s.reaches_route change
  | accept arrival => exact s.reaches_accept arrival j
  | work place => exact s.reaches_work place j
  | stop inTime => exact reaches_stop h inTime j

/-- **So is any sequence of calls.** -/
theorem reaches_calls (h : Sound events (.between s)) (calls : List (Call ω)) (j : Journal ω) :
    s.Reaches ((calls.foldlM call s).run j).1 := by
  induction calls generalizing s events j with
  | nil => exact .refl s
  | cons call calls ih =>
    have hfirst := reaches_call h call j
    obtain ⟨events', hsteps⟩ := hfirst
    exact Reaches.trans ⟨events', hsteps⟩ (ih (h.steps hsteps) _)

end Server

end HttpKit
