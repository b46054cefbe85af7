import HttpKit.Proofs.Server.Calls

/-!
# The life cycle of a server

To its users a server is stopped or running, and what it serves while it runs was put together when
it started. `LifeCycle` says this without the steps of a start, without a listening socket and
without connections. `lifeCycle_of_calls` says that a server is where its life cycle says, whatever
calls are made of it, as long as a start fails only where the system refuses the address.

## How the argument goes

* a start ends at its first step that fails, and what it leaves behind depends on that step
  (`start_eq`, `leftBy`)
* `Follows` ties a server to a life cycle. There is one lemma for each function of the server, and
  `Follows.call` puts them together: a call leads on, and ends, as the life cycle says
* `Follows.calls` is the induction over calls that are made one after the other
-/

namespace HttpKit

variable {ω : Type}

/-! ## The steps of a start -/

def StartStep.inOrder : List StartStep := [.create, .bind, .listen, .readPort, .beginAccepting]

/-- Whether a step fails because the system refuses the address. -/
def AddressRefused (step : StartStep) (trouble : Trouble) : Prop :=
  (step = .bind ∨ step = .listen) ∧ trouble.isSystem = true

namespace Network

/-- The first step of a start that fails, and why. -/
def failure? (network : Network) : Option (StartStep × Trouble) :=
  StartStep.inOrder.findSome? fun step => (network.trouble step).map (step, ·)

/-- Whether a start fails only where the system refuses the address. -/
def Refusing (network : Network) : Prop :=
  ∀ step trouble, network.trouble step = some trouble → AddressRefused step trouble

variable {network : Network} {step : StartStep} {trouble : Trouble}

theorem trouble_of_failure? (h : network.failure? = some (step, trouble)) :
    network.trouble step = some trouble := by
  obtain ⟨step', -, h⟩ := List.exists_of_findSome?_eq_some h
  obtain ⟨trouble', htrouble, h⟩ := Option.map_eq_some_iff.mp h
  obtain ⟨rfl, rfl⟩ := Prod.mk.inj h
  exact htrouble

end Network

namespace Server

variable {s : Server ω} {network : Network} {step : StartStep} {trouble : Trouble}

/-- What a start leaves behind that fails at a step. -/
def leftBy (s : Server ω) (network : Network) (trouble : Trouble) : StartStep → Server ω
  | .create => { s with state := .starting }
  | .bind | .listen =>
    if trouble.isSystem then { s with state := .stopped } else { s with state := .starting }
  | .readPort => { s with state := .starting, listening := true }
  | .beginAccepting =>
    { s with
      state := .running, listening := true, boundPort := some (s.portOn network), unbegun := true }

/-- Where the system refuses the address, the state is set back. -/
theorem leftBy_of_refused (h : AddressRefused step trouble) (s : Server ω) (network : Network) :
    s.leftBy network trouble step = { s with state := .stopped } := by
  obtain ⟨rfl | rfl, hsystem⟩ := h <;> simp only [leftBy, hsystem, if_true]

/-- A server that has started. -/
def serving (s : Server ω) (network : Network) : Server ω :=
  { s with
    state := .running, listening := true, boundPort := some (s.portOn network), accepting := true }

theorem listen_eq (s : Server ω) (network : Network) :
    s.listen network = match network.failure? with
      | some (step, trouble) => (.error (.trouble trouble), s.leftBy network trouble step)
      | none => (.ok (), s.serving network) := by
  simp only [listen, Network.failure?, StartStep.inOrder, List.findSome?_cons, List.findSome?_nil]
  cases network.trouble .create with
  | some t => rfl
  | none =>
    cases network.trouble .bind with
    | some t => rfl
    | none =>
      cases network.trouble .listen with
      | some t => rfl
      | none =>
        cases network.trouble .readPort with
        | some t => rfl
        | none => cases network.trouble .beginAccepting <;> rfl

/-- Whether there is nothing to answer requests with. -/
def lacksHandler (s : Server ω) : Bool := s.handler.isNone && s.router.isNone

/-- The server once its application is put together. -/
def composed (s : Server ω) : Server ω :=
  { s with application := some ⟨s.chain, s.handler⟩ }

theorem compose_eq (s : Server ω) :
    s.compose = if s.lacksHandler then none else some ⟨s.chain, s.handler⟩ := by
  unfold compose lacksHandler
  cases s.handler <;> cases s.router <;> rfl

/-- A start comes to an end in one of four ways. -/
theorem start_eq (s : Server ω) (network : Network) :
    s.start network =
      if s.state ≠ .stopped then (.ok (), s)
      else if s.lacksHandler then (.error .noHandler, s)
      else
        match network.failure? with
        | some (step, trouble) =>
          (.error (.trouble trouble), s.composed.leftBy network trouble step)
        | none => (.ok (), s.composed.serving network) := by
  unfold start
  rw [compose_eq]
  by_cases hs : s.state ≠ .stopped
  · rw [if_pos hs, if_pos hs]
  · rw [if_neg hs, if_neg hs]
    cases s.lacksHandler with
    | true => rfl
    | false => exact listen_eq s.composed network

/-- A stop ends stopped. It fails only where it would have to wait for a time that cannot be
counted. -/
theorem stop_forms (hs : s.state = .running) (hbegun : s.unbegun = false) (inTime : List Nat)
    (j : Journal ω) :
    (∃ left, s.beginStop.endAccepting.SameApart left ∧ ((s.stop inTime).run j).1.2 = left.halted)
      ∧ ((∃ n, ((s.stop inTime).run j).1.1 = .ok n)
        ∨ ((s.stop inTime).run j).1.1 = .error .waitTooLong) := by
  rcases s.stop_cases hs inTime j with ⟨hunbegun, -⟩ | ⟨-, -, hrun⟩ | ⟨-, -, n, j', hrun⟩
  · exact absurd (hbegun.symm.trans hunbegun) Bool.false_ne_true
  · rw [hrun]
    exact ⟨⟨_, .refl _, rfl⟩, Or.inr rfl⟩
  · rw [hrun]
    exact ⟨⟨_, (sameApart_workAll _ inTime j).trans (sameApart_abortTracked _), rfl⟩,
      Or.inl ⟨n, rfl⟩⟩

end Server

/-! ## Life cycles -/

/-- What a server serves while it runs, put together when it started. -/
structure Service (ω : Type) where
  port : Int
  middleware : List (Middleware ω)
  /-- `none` for the server's own router. -/
  handler : Option (Candidate (Handler ω))

/-- What answers requests: the middleware around the handler or around the server's own router, the
one added first outermost. -/
def Service.answering (service : Service ω) (router : Option (Router ω)) : Handler ω :=
  service.middleware.foldr Middleware.around
    (match service.handler with
      | some handler => Handler.ofCandidate handler
      | none => (router.getD .new).handle)

/-- A server as its users know it: how it is configured, and what it serves, if it runs. -/
structure LifeCycle (ω : Type) where
  /-- The port it is set to. -/
  setPort : Int
  middleware : List (Middleware ω)
  handler : Option (Candidate (Handler ω))
  router : Option (Router ω)
  encryption : Option Encryption
  service : Option (Service ω)

/-- What a call is refused with. -/
inductive Refusal where
  | start (e : StartError)
  | configure (e : ConfigureError)
  | route (e : RegistrationError)
  | stop (trouble : Trouble)

namespace LifeCycle

/-- A server that has not been started yet. -/
def made (settings : Settings) (handler : Option (Candidate (Handler ω))) : LifeCycle ω :=
  ⟨settings.portNumber, [], handler.bind Server.given, none, none, none⟩

variable (l : LifeCycle ω)

def isRunning : Bool := l.service.isSome

/-- Whether there is nothing to answer requests with. -/
def lacksHandler : Bool := l.handler.isNone && l.router.isNone

def state : ServerState := if l.isRunning then .running else .stopped

/-- The port of what it serves, else the one it is set to. -/
def port : Int := (l.service.map Service.port).getD l.setPort

/-- A change of the configuration, which is made only while the server is stopped. -/
def configured (changed : LifeCycle ω) : LifeCycle ω := if l.isRunning then l else changed

/-- The life cycle after a call. -/
def next : Call ω → LifeCycle ω
  | .start network =>
    if l.isRunning || l.lacksHandler || network.failure?.isSome then l
    else
      let port := if l.setPort = 0 then network.freePort else l.setPort
      { l with service := some ⟨port, l.middleware, l.handler⟩ }
  | .stop _ => { l with service := none }
  | .use (.function m) => l.configured { l with middleware := l.middleware ++ [m] }
  | .use (.datum _) => l
  | .setHandler handler => l.configured { l with handler := Server.given handler }
  | .encrypt encryption => l.configured { l with encryption := some encryption }
  | .route change =>
    match change (l.router.getD .new) with
    | .ok router => { l with router := some router }
    | .error _ => { l with router := some (l.router.getD .new) }
  | .accept _ | .work _ => l

/-- Refuses a change of a server that runs. -/
def unlessRunning (change : Change) (outcome : Except Refusal Unit) : Except Refusal Unit :=
  if l.isRunning then .error (.configure (.running change)) else outcome

/-- How a call ends. -/
def outcome : Call ω → Except Refusal Unit
  | .start network =>
    if l.isRunning then .ok ()
    else if l.lacksHandler then .error (.start .noHandler)
    else
      match network.failure? with
      | some (_, trouble) => .error (.start (.trouble trouble))
      | none => .ok ()
  | .use (.function _) => l.unlessRunning .middleware (.ok ())
  | .use (.datum value) =>
    l.unlessRunning .middleware (.error (.configure (.notCallable ⟨"Middleware", value⟩)))
  | .setHandler _ => l.unlessRunning .handler (.ok ())
  | .encrypt _ => l.unlessRunning .encryption (.ok ())
  | .route change =>
    match change (l.router.getD .new) with
    | .ok _ => .ok ()
    | .error e => .error (.route e)
  | .stop _ | .accept _ | .work _ => .ok ()

/-- Which calls leave everything as it is. -/
inductive Ignores : Call ω → Prop where
  | start (h : l.isRunning = true) (network : Network) : Ignores (.start network)
  | stop (h : l.isRunning = false) (inTime : List Nat) : Ignores (.stop inTime)
  | use (h : l.isRunning = true) (middleware : Candidate (Middleware ω)) :
      Ignores (.use middleware)
  | datum (value : Json) : Ignores (.use (.datum value))
  | setHandler (h : l.isRunning = true) (handler : Candidate (Handler ω)) :
      Ignores (.setHandler handler)
  | encrypt (h : l.isRunning = true) (encryption : Encryption) : Ignores (.encrypt encryption)

end LifeCycle

/-! ## Servers and their life cycles -/

/-- Whether no start fails for another reason than that the system refuses the address. -/
def Call.Ordinary : Call ω → Prop
  | .start network => network.Refusing
  | _ => True

namespace Server

/-- How a call ends. -/
def outcome (s : Server ω) (j : Journal ω) : Call ω → Except Refusal Unit
  | .start network => (s.start network).1.mapError .start
  | .use middleware => ((s.use middleware).map fun _ => ()).mapError .configure
  | .setHandler handler => ((s.setHandler handler).map fun _ => ()).mapError .configure
  | .encrypt encryption => ((s.encrypt encryption).map fun _ => ()).mapError .configure
  | .route change => (s.route change).1.mapError .route
  | .stop inTime => (((s.stop inTime).run j).1.1.map fun _ => ()).mapError .stop
  | .accept _ | .work _ => .ok ()

/-- Whether a server is where its life cycle says. -/
structure Follows (s : Server ω) (l : LifeCycle ω) : Prop where
  state : s.state = l.state
  setPort : s.settings.portNumber = l.setPort
  boundPort : s.boundPort = l.service.map Service.port
  /-- A stop does not fail halfway. -/
  begun : s.unbegun = false
  chain : s.chain.toList = l.middleware
  handler : s.handler = l.handler
  router : s.router = l.router
  encryption : s.encryption = l.encryption
  application : ∀ service ∈ l.service,
    ∃ chain, s.application = some ⟨chain, service.handler⟩ ∧ chain.toList = service.middleware

namespace Follows

variable {s s' : Server ω} {l : LifeCycle ω} {j : Journal ω}

theorem made (settings : Settings) (handler : Option (Candidate (Handler ω)))
    (executor : Executor) :
    (Server.made settings handler executor).Follows (.made settings handler) :=
  ⟨rfl, rfl, rfl, rfl, rfl, rfl, rfl, rfl, fun _ h => by simp [LifeCycle.made] at h⟩

theorem port (h : s.Follows l) : s.port = l.port := by
  rw [Server.port, LifeCycle.port, h.boundPort, h.setPort]

/-- **A server that runs answers with what was put together when it started.** -/
theorem answering (h : s.Follows l) {service : Service ω} (hservice : service ∈ l.service) :
    s.answering = service.answering s.router := by
  obtain ⟨chain, happlication, hchain⟩ := h.application service hservice
  rw [Server.answering, happlication, Service.answering, ← hchain]
  cases service.handler with
  | none => exact chain.wrap_eq_foldr _
  | some handler => exact chain.wrap_eq_foldr _

theorem sameApart (h : s.Follows l) (hs : s.SameApart s') : s'.Follows l := by
  obtain ⟨_, _, rfl⟩ := hs
  exact { h with }

theorem endAccepting (h : s.Follows l) : s.endAccepting.Follows l := { h with }

theorem ne_stopped (h : s.Follows l) (hl : l.isRunning = true) : s.state ≠ .stopped := by
  rw [h.state, LifeCycle.state, hl]
  decide

theorem ne_running (h : s.Follows l) (hl : l.isRunning = false) : s.state ≠ .running := by
  rw [h.state, LifeCycle.state, hl]
  decide

theorem running (h : s.Follows l) (hl : l.isRunning = true) : s.state = .running :=
  h.state.trans (if_pos hl)

theorem stopped (h : s.Follows l) (hl : l.isRunning = false) : s.state = .stopped :=
  h.state.trans (if_neg (by simp [hl]))

theorem lacksHandler (h : s.Follows l) : s.lacksHandler = l.lacksHandler := by
  rw [Server.lacksHandler, LifeCycle.lacksHandler, h.handler, h.router]

/-- A start that the system refuses puts an application together that is of no use. -/
theorem refused (h : s.Follows l) (hl : l.isRunning = false) :
    ({ s.composed with state := .stopped } : Server ω).Follows l :=
  { h with
    state := (h.stopped hl).symm.trans h.state
    application := fun service hservice => by
      rw [LifeCycle.isRunning, Option.mem_def.mp hservice] at hl
      exact absurd hl (by simp) }

theorem serving (h : s.Follows l) (network : Network) :
    (s.composed.serving network).Follows
      { l with
        service := some
          ⟨if l.setPort = 0 then network.freePort else l.setPort, l.middleware, l.handler⟩ } :=
  { h with
    state := rfl
    boundPort := by
      rw [← h.setPort]
      rfl
    application := fun service hservice => by
      obtain rfl := Option.mem_some.mp hservice
      refine ⟨s.chain, ?_, h.chain⟩
      rw [← h.handler]
      rfl }

/-- **A start** is refused where there is nothing to answer requests, and where the system refuses
the address. -/
theorem start (h : s.Follows l) {network : Network} (hnetwork : network.Refusing) :
    (s.start network).2.Follows (l.next (.start network))
      ∧ (s.start network).1.mapError .start = l.outcome (.start network) := by
  rw [start_eq, h.lacksHandler, LifeCycle.next, LifeCycle.outcome]
  cases hl : l.isRunning with
  | true =>
    rw [if_pos (h.ne_stopped hl)]
    exact ⟨h, rfl⟩
  | false =>
    rw [if_neg (not_not.mpr (h.stopped hl))]
    cases l.lacksHandler with
    | true => exact ⟨h, rfl⟩
    | false =>
      match hfailure : network.failure? with
      | some (step, trouble) =>
        -- This is the one failure after which the state is set back.
        have hrefused := hnetwork step trouble (Network.trouble_of_failure? hfailure)
        refine ⟨?_, rfl⟩
        simpa [leftBy_of_refused hrefused] using h.refused hl
      | none => exact ⟨h.serving network, rfl⟩

theorem service_of_stopped (hl : l.isRunning = false) : l.service = none := by
  simpa [LifeCycle.isRunning] using hl

/-- **A stop** ends stopped. -/
theorem stop (h : s.Follows l) (inTime : List Nat) (j : Journal ω) :
    ((s.stop inTime).run j).1.2.Follows (l.next (.stop inTime))
      ∧ (s.outcome j (.stop inTime) = .ok ()
        ∨ l.isRunning = true ∧ s.outcome j (.stop inTime) = .error (.stop .waitTooLong)) := by
  rw [Server.outcome]
  cases hl : l.isRunning with
  | false =>
    have hsame : l.next (.stop inTime) = l := by
      rw [LifeCycle.next, ← service_of_stopped hl]
    rw [stop_of_not_running (h.ne_running hl), hsame]
    exact ⟨h, Or.inl rfl⟩
  | true =>
    obtain ⟨⟨left, hleft, hstop⟩, hends⟩ := stop_forms (h.running hl) h.begun inTime j
    constructor
    · rw [hstop]
      -- Whatever became of the connections, the rest of the server is as it was told to stop.
      obtain ⟨_, _, rfl⟩ := hleft
      exact { h with
        state := rfl
        boundPort := rfl
        application := fun _ hservice => by simp [LifeCycle.next] at hservice }
    · rcases hends with ⟨n, hends⟩ | hends <;> rw [hends]
      · exact Or.inl rfl
      · exact Or.inr ⟨rfl, rfl⟩

theorem whileStopped (h : s.Follows l) (change : Change) :
    s.whileStopped change = if l.isRunning then .error (.running change) else .ok () := by
  rw [Server.whileStopped, h.state, LifeCycle.state]
  cases l.isRunning <;> rfl

/-- **A change of the configuration** is refused while the server runs. -/
theorem configure (h : s.Follows l) {change : Change} {r : Except ConfigureError (Server ω)}
    {changed : LifeCycle ω} {outcome : Except Refusal Unit}
    (hr : (r.toOption.getD s).Follows changed
      ∧ (r.map fun _ => ()).mapError .configure = outcome) :
    ((s.whileStopped change >>= fun _ => r).toOption.getD s).Follows (l.configured changed)
      ∧ ((s.whileStopped change >>= fun _ => r).map fun _ => ()).mapError .configure
        = l.unlessRunning change outcome := by
  rw [h.whileStopped, LifeCycle.configured, LifeCycle.unlessRunning]
  cases l.isRunning with
  | true => exact ⟨h, rfl⟩
  | false => exact hr

theorem use (h : s.Follows l) (middleware : Candidate (Middleware ω)) :
    ((s.use middleware).toOption.getD s).Follows (l.next (.use middleware))
      ∧ ((s.use middleware).map fun _ => ()).mapError .configure
        = l.outcome (.use middleware) := by
  cases middleware with
  | function m =>
    refine h.configure ⟨{ h with chain := ?_ }, rfl⟩
    rw [← h.chain]
    exact s.chain.toList_append m
  | datum value =>
    -- The change is refused before the middleware is looked at, but there is no change anyway.
    have hsame : l.next (.use (.datum value)) = l.configured l := (ite_self l).symm
    rw [hsame]
    exact h.configure ⟨h, rfl⟩

theorem setHandler (h : s.Follows l) (handler : Candidate (Handler ω)) :
    ((s.setHandler handler).toOption.getD s).Follows (l.next (.setHandler handler))
      ∧ ((s.setHandler handler).map fun _ => ()).mapError .configure
        = l.outcome (.setHandler handler) :=
  h.configure ⟨{ h with handler := rfl }, rfl⟩

theorem encrypt (h : s.Follows l) (encryption : Encryption) :
    ((s.encrypt encryption).toOption.getD s).Follows (l.next (.encrypt encryption))
      ∧ ((s.encrypt encryption).map fun _ => ()).mapError .configure
        = l.outcome (.encrypt encryption) :=
  h.configure ⟨{ h with encryption := rfl }, rfl⟩

theorem route (h : s.Follows l) (change : Router ω → Except RegistrationError (Router ω)) :
    (s.route change).2.Follows (l.next (.route change))
      ∧ (s.route change).1.mapError .route = l.outcome (.route change) := by
  rw [Server.route, LifeCycle.next, LifeCycle.outcome, h.router]
  cases change (l.router.getD .new) with
  | ok router => exact ⟨{ h with router := rfl }, rfl⟩
  | error e =>
    refine ⟨{ h with router := ?_ }, rfl⟩
    rw [withRouter, h.router]

/-- **A call** leads on and ends as the life cycle says. Only a stop may fail otherwise, and it
stops the server nevertheless. -/
theorem call (h : s.Follows l) {call : Call ω} (hcall : call.Ordinary) (j : Journal ω) :
    ((s.call call).run j).1.Follows (l.next call)
      ∧ (s.outcome j call = l.outcome call
        ∨ l.isRunning = true ∧ (∃ inTime, call = .stop inTime)
          ∧ s.outcome j call = .error (.stop .waitTooLong)) := by
  cases call with
  | start network => exact (h.start hcall).imp_right Or.inl
  | setHandler handler => exact (h.setHandler handler).imp_right Or.inl
  | use middleware => exact (h.use middleware).imp_right Or.inl
  | encrypt encryption => exact (h.encrypt encryption).imp_right Or.inl
  | route change => exact (h.route change).imp_right Or.inl
  | accept arrival =>
    refine ⟨?_, Or.inl rfl⟩
    exact (sameApart_accept s arrival j).elim h.sameApart h.endAccepting.sameApart
  | work place => exact ⟨h.sameApart (sameApart_work s place j), Or.inl rfl⟩
  | stop inTime =>
    obtain ⟨hfollows, houtcome⟩ := h.stop inTime j
    exact ⟨hfollows, houtcome.imp_right fun ⟨hl, hlong⟩ => ⟨hl, ⟨inTime, rfl⟩, hlong⟩⟩

theorem configure_of_running (h : s.Follows l) (hl : l.isRunning = true) (change : Change)
    (r : Except ConfigureError (Server ω)) :
    (s.whileStopped change >>= fun _ => r).toOption.getD s = s := by
  rw [h.whileStopped, if_pos hl]
  rfl

/-- **A call that is ignored changes nothing at all.** -/
theorem call_of_ignores (h : s.Follows l) {call : Call ω} (hcall : l.Ignores call)
    (j : Journal ω) : (s.call call).run j = (s, j) := by
  cases hcall with
  | start hl network =>
    have hstart : (s.start network).2 = s := by rw [start_eq, if_pos (h.ne_stopped hl)]
    exact congrArg (·, j) hstart
  | stop hl inTime =>
    rw [Server.call, StateT.run_bind, stop_of_not_running (h.ne_running hl)]
    rfl
  | use hl middleware => exact congrArg (·, j) (h.configure_of_running hl _ _)
  | datum value =>
    have huse : (s.use (.datum value)).toOption.getD s = s := by
      rw [Server.use, h.whileStopped]
      cases l.isRunning <;> rfl
    exact congrArg (·, j) huse
  | setHandler hl handler => exact congrArg (·, j) (h.configure_of_running hl _ _)
  | encrypt hl encryption => exact congrArg (·, j) (h.configure_of_running hl _ _)

/-- **Nothing but the life cycle tells where a server is after any calls.** -/
theorem calls (h : s.Follows l) {calls : List (Call ω)} (hcalls : ∀ call ∈ calls, call.Ordinary)
    (j : Journal ω) :
    ((calls.foldlM Server.call s).run j).1.Follows (calls.foldl LifeCycle.next l) := by
  induction calls generalizing s l j with
  | nil => exact h
  | cons call calls ih =>
    rw [List.forall_mem_cons] at hcalls
    exact ih (h.call hcalls.1 j).1 hcalls.2 ((s.call call).run j).2

end Follows

/-- **A server is where its life cycle says, whatever calls are made of it**, and the next call
ends as it says. Only a stop may fail otherwise: it stops the server nevertheless. -/
theorem lifeCycle_of_calls (settings : Settings) (handler : Option (Candidate (Handler ω)))
    (executor : Executor) {calls : List (Call ω)} (hcalls : ∀ call ∈ calls, call.Ordinary)
    (j : Journal ω) :
    let s := ((calls.foldlM Server.call (.made settings handler executor)).run j).1
    let l := calls.foldl LifeCycle.next (.made settings handler)
    (s.state = l.state ∧ s.port = l.port ∧ s.chain.toList = l.middleware ∧ s.handler = l.handler
        ∧ s.encryption = l.encryption
        ∧ ∀ service ∈ l.service, s.answering = service.answering s.router)
      ∧ (∀ call : Call ω, call.Ordinary → ∀ k, s.outcome k call = l.outcome call
        ∨ l.isRunning = true ∧ (∃ inTime, call = .stop inTime)
          ∧ s.outcome k call = .error (.stop .waitTooLong))
      ∧ ∀ call : Call ω, l.Ignores call → ∀ k, (s.call call).run k = (s, k) := by
  intro s l
  have h : s.Follows l := (Follows.made settings handler executor).calls hcalls j
  exact ⟨⟨h.state, h.port, h.chain, h.handler, h.encryption, fun _ => h.answering⟩,
    fun call hcall k => (h.call hcall k).2, fun call hcall k => h.call_of_ignores hcall k⟩

/-! ### A server whose address is taken at first -/

/-- A middleware that leaves everything to the rest of the way. -/
def passing (name : String) : Middleware Unit := ⟨name, fun request next => next request⟩

/-- Someone else listens on the address. -/
def takenAddress : Network where
  trouble
    | .bind => some .addressInUse
    | _ => none
  freePort := 49152

/-- It is put to use, started in vain, configured further and started again. -/
def secondStart : List (Call Unit) :=
  [.use (.function (passing "first")), .use (.datum .null), .start takenAddress,
    .use (.function (passing "second")), .start { takenAddress with trouble := fun _ => none },
    .use (.function (passing "third"))]

theorem lifeCycle_secondStart :
    (∀ call ∈ secondStart, call.Ordinary) ∧ ∀ handler : Handler Unit, ∀ j,
      let s := ((secondStart.foldlM Server.call
        (.made .default (some (.function handler)) .workers)).run j).1
      s.state = .running ∧ s.port = 8080
        ∧ s.chain.toList = [passing "first", passing "second"]
        ∧ s.answering = (passing "first").around ((passing "second").around handler)
        ∧ s.outcome j (.use (.datum .null)) = .error (.configure (.running .middleware))
        ∧ (s.call (.start takenAddress)).run j = (s, j) := by
  have htaken : takenAddress.Refusing := by
    rintro (_ | _ | _ | _ | _) trouble h <;> cases h
    exact ⟨Or.inl rfl, rfl⟩
  have hcalls : ∀ call ∈ secondStart, call.Ordinary := by
    simp only [secondStart, List.forall_mem_cons]
    exact ⟨trivial, trivial, htaken, trivial, by rintro step trouble ⟨⟩, trivial, by simp⟩
  refine ⟨hcalls, fun handler j => ?_⟩
  obtain ⟨⟨hstate, hport, hchain, -, -, hanswering⟩, houtcome, hignores⟩ :=
    lifeCycle_of_calls .default (some (.function handler)) .workers hcalls j
  refine ⟨hstate, hport, hchain, hanswering _ rfl, ?_, hignores _ (.start rfl _) j⟩
  obtain h | ⟨-, ⟨inTime, h⟩, -⟩ := houtcome (.use (.datum .null)) trivial j
  · exact h
  · exact absurd h (by simp)

end Server

end HttpKit
