import HttpKit.Proofs.Server.LifeCycle

/-!
# Starts that fail

Where the system refuses the address, a start leaves the server at rest: it is stopped, has no port
and no listening socket, and the next start goes as if there had been none before. A start that
fails in any other way leaves the server stranded. It is never stopped again, whatever calls are
made of it, so that it can be neither configured nor started, and it accepts nobody.

## How the argument goes

* `Standing` is what starting and stopping change of a server. `Standing.Moves` lists what a call
  can make of it, and `moves_call` has one case for every function
* a property of standings that every move keeps is kept by any calls (`standing_calls`). There are
  two: a server that is stopped is at rest (`Settled`), and a stranded one stays so (`Stranded`)
-/

namespace HttpKit

variable {ω : Type}

/-! ## Standings -/

/-- How far a server is with starting and stopping. -/
structure Standing where
  state : ServerState
  boundPort : Option Int
  listening : Bool
  accepting : Bool
  unbegun : Bool
  deriving DecidableEq, Repr

namespace Standing

/-- That of a server that is stopped and has left nothing open. -/
def rest : Standing := ⟨.stopped, none, false, false, false⟩

/-- What a call can make of a standing. -/
inductive Moves : Standing → Standing → Prop where
  | stay (a : Standing) : Moves a a
  | endAccepting (a : Standing) : Moves a { a with accepting := false }
  /-- A start without a listening socket, with one, with an acceptor that did not begin, and one
  that succeeds. -/
  | create {a : Standing} (h : a.state = .stopped) : Moves a { a with state := .starting }
  | listen {a : Standing} (h : a.state = .stopped) :
      Moves a { a with state := .starting, listening := true }
  | strand {a : Standing} (h : a.state = .stopped) (port : Int) :
      Moves a { a with state := .running, listening := true, boundPort := some port,
                       unbegun := true }
  | serve {a : Standing} (h : a.state = .stopped) (port : Int) :
      Moves a { a with state := .running, listening := true, boundPort := some port,
                       accepting := true }
  | stop {a : Standing} (h : a.state = .running) (hbegun : a.unbegun = false) : Moves a rest
  /-- A stop that cannot wait for an acceptor that did not begin. -/
  | stopHalfway {a : Standing} (h : a.state = .running) (hbegun : a.unbegun = true) :
      Moves a { a with state := .stopping, listening := false }

variable {a b : Standing}

/-- Whether nothing is left open if the server is stopped. -/
def Settled (a : Standing) : Prop := a.state = .stopped → a = rest

theorem Settled.moves (h : a.Settled) (hm : Moves a b) : b.Settled := by
  intro hb
  cases hm with
  | stay => exact h hb
  | endAccepting =>
    -- Nobody is accepted at rest, so that accepting ends without a change.
    obtain rfl := h hb
    rfl
  | stop => rfl
  | create | listen | strand | serve | stopHalfway => simp at hb

/-- Whether the server is neither stopped nor can it be, and accepts nobody. -/
structure Stranded (a : Standing) : Prop where
  unstopped : a.state ≠ .stopped
  idle : a.accepting = false
  unbegun : a.state = .running → a.unbegun = true

theorem Stranded.moves (h : a.Stranded) (hm : Moves a b) : b.Stranded := by
  cases hm with
  | stay => exact h
  | endAccepting => exact ⟨h.unstopped, rfl, h.unbegun⟩
  | create hs | listen hs | strand hs | serve hs => exact absurd hs h.unstopped
  | stop hs hbegun => simp [h.unbegun hs] at hbegun
  | stopHalfway => exact ⟨by simp, h.idle, by simp⟩

end Standing

namespace Server

variable {s s' : Server ω} {network : Network} {step : StartStep} {trouble : Trouble}
  {j : Journal ω}

def standing (s : Server ω) : Standing :=
  ⟨s.state, s.boundPort, s.listening, s.accepting, s.unbegun⟩

theorem SameApart.standing (h : s.SameApart s') : s'.standing = s.standing := by
  obtain ⟨_, _, rfl⟩ := h
  rfl

theorem standing_halted (s : Server ω) :
    s.halted.standing = { s.standing with state := .stopped, boundPort := none } := rfl

theorem standing_of_stopped (hs : s.state = .stopped) :
    ({ s with state := .stopped } : Server ω).standing = s.standing := by
  rw [standing, standing, hs]

theorem moves_leftBy (hs : s.state = .stopped) (network : Network) (trouble : Trouble)
    (step : StartStep) : s.standing.Moves (s.leftBy network trouble step).standing := by
  cases step with
  | create => exact .create hs
  | bind | listen =>
    simp only [leftBy]
    split
    · rw [standing_of_stopped hs]
      exact .stay _
    · exact .create hs
  | readPort => exact .listen hs
  | beginAccepting => exact .strand hs _

theorem moves_start (s : Server ω) (network : Network) :
    s.standing.Moves (s.start network).2.standing := by
  rw [start_eq]
  by_cases hs : s.state = .stopped
  · rw [if_neg (not_not.mpr hs)]
    cases s.lacksHandler with
    | true => exact .stay _
    | false =>
      match network.failure? with
      | some (step, trouble) => exact moves_leftBy (s := s.composed) hs network trouble step
      | none => exact .serve hs _
  · rw [if_pos hs]
    exact .stay _

theorem moves_stop (s : Server ω) (inTime : List Nat) (j : Journal ω) :
    s.standing.Moves ((s.stop inTime).run j).1.2.standing := by
  by_cases hs : s.state = .running
  · cases hbegun : s.unbegun with
    | false =>
      obtain ⟨⟨left, hleft, hstop⟩, -⟩ := stop_forms hs hbegun inTime j
      have hrest : left.halted.standing = .rest := by
        rw [standing_halted, hleft.standing, standing]
        simp only [beginStop, endAccepting, hbegun]
        rfl
      rw [hstop, hrest]
      exact .stop hs hbegun
    | true =>
      -- Nothing is set back: the stop breaks off before it comes to that.
      rcases s.stop_cases hs inTime j with ⟨-, hrun⟩ | ⟨hbegan, -⟩ | ⟨hbegan, -⟩
      · rw [hrun]
        exact .stopHalfway hs hbegun
      · exact absurd (hbegan.symm.trans hbegun) Bool.false_ne_true
      · exact absurd (hbegan.symm.trans hbegun) Bool.false_ne_true
  · rw [stop_of_not_running hs]
    exact .stay _

theorem moves_accept (s : Server ω) (arrival : Arrival) (j : Journal ω) :
    s.standing.Moves ((s.accept arrival).run j).1.standing := by
  rcases sameApart_accept s arrival j with h | h
  · rw [h.standing]
    exact .stay _
  · rw [h.standing]
    exact .endAccepting _

/-- Configuring a server starts and stops nothing. -/
theorem standing_toOption {r : Except ConfigureError (Server ω)}
    (h : ∀ {s'}, r = .ok s' → s'.standing = s.standing) :
    (r.toOption.getD s).standing = s.standing := by
  cases r with
  | error e => rfl
  | ok s' => exact h rfl

theorem standing_route (s : Server ω) (change : Router ω → Except RegistrationError (Router ω)) :
    (s.route change).2.standing = s.standing := by
  unfold route
  split <;> rfl

/-- **What a call makes of a server's standing.** -/
theorem moves_call (s : Server ω) (call : Call ω) (j : Journal ω) :
    s.standing.Moves ((s.call call).run j).1.standing := by
  have hsame {s' : Server ω} (h : s'.standing = s.standing) : s.standing.Moves s'.standing :=
    h ▸ .stay _
  cases call with
  | start network => exact moves_start s network
  | setHandler handler =>
    refine hsame (standing_toOption fun h => ?_)
    obtain rfl := Except.ok.inj (of_whileStopped h)
    rfl
  | use middleware =>
    refine hsame (standing_toOption fun h => ?_)
    obtain ⟨chain, rfl⟩ := exists_chain_of_use h
    rfl
  | encrypt encryption =>
    refine hsame (standing_toOption fun h => ?_)
    obtain rfl := Except.ok.inj (of_whileStopped h)
    rfl
  | route change => exact hsame (standing_route s change)
  | accept arrival => exact moves_accept s arrival j
  | work place => exact hsame (sameApart_work s place j).standing
  | stop inTime => exact moves_stop s inTime j

/-- What every move keeps is kept by any calls. -/
theorem standing_calls {P : Standing → Prop} (hP : ∀ {a b : Standing}, P a → a.Moves b → P b)
    (h : P s.standing) (calls : List (Call ω)) (j : Journal ω) :
    P ((calls.foldlM Server.call s).run j).1.standing := by
  induction calls generalizing s j with
  | nil => exact h
  | cons call calls ih => exact ih (hP h (moves_call s call j)) ((s.call call).run j).2

/-! ## Servers at rest and stranded ones -/

/-- Whether a server is stopped and has left nothing open. -/
def AtRest (s : Server ω) : Prop := s.standing = .rest

/-- A server that is stopped is at rest, whatever calls were made of it. -/
theorem atRest_of_stopped {settings : Settings} {handler : Option (Candidate (Handler ω))}
    {executor : Executor} {calls : List (Call ω)} {j' : Journal ω}
    (hs : (calls.foldlM Server.call (.made settings handler executor)).run j = (s, j'))
    (hstopped : s.state = .stopped) : s.AtRest := by
  have hmade : (Server.made settings handler executor : Server ω).standing.Settled := fun _ => rfl
  have h := standing_calls Standing.Settled.moves hmade calls j
  rw [hs] at h
  exact h hstopped

theorem start_of_failure? (hs : s.state = .stopped) (hhandler : s.lacksHandler = false)
    (hfailure : network.failure? = some (step, trouble)) :
    s.start network = (.error (.trouble trouble), s.composed.leftBy network trouble step) := by
  rw [start_eq, if_neg (not_not.mpr hs), hhandler, hfailure]
  rfl

/-- The next start goes as if there had been none before. -/
theorem start_of_refused (hs : s.state = .stopped) (hhandler : s.lacksHandler = false)
    (again : Network) :
    ({ s.composed with state := .stopped } : Server ω).start again = s.start again := by
  have hcomposed : ({ s.composed with state := .stopped } : Server ω).composed = s.composed := by
    rw [← hs]
    rfl
  have hlacks : ({ s.composed with state := .stopped } : Server ω).lacksHandler = false := hhandler
  rw [start_eq, start_eq s, if_neg (not_not.mpr rfl), if_neg (not_not.mpr hs), hlacks, hhandler,
    hcomposed]
  rfl

/-- Where it fails otherwise, it leaves the server stranded. -/
theorem stranded_leftBy (h : ¬AddressRefused step trouble) (hs : s.accepting = false)
    (network : Network) : (s.leftBy network trouble step).standing.Stranded := by
  cases step with
  | create | readPort => exact ⟨by simp [leftBy, standing], hs, by simp [leftBy, standing]⟩
  | beginAccepting => exact ⟨by simp [leftBy, standing], hs, fun _ => rfl⟩
  | bind | listen =>
    have hsystem : trouble.isSystem = false := by simpa [AddressRefused] using h
    simp only [leftBy, hsystem, Bool.false_eq_true, if_false]
    exact ⟨by simp [standing], hs, by simp [standing]⟩

/-- A stranded server neither starts nor lets itself be configured. -/
theorem start_of_stranded (h : s.standing.Stranded) (network : Network) :
    s.start network = (.ok (), s) := by
  have hs : s.state ≠ .stopped := h.unstopped
  rw [start_eq, if_pos hs]

theorem whileStopped_of_stranded (h : s.standing.Stranded) (change : Change) :
    s.whileStopped change = .error (.running change) := if_neg h.unstopped

/-- **What a start that fails leaves behind**, whatever calls were made of the server before. Its
failure is reported in any case. The server is at rest just where the system refused the address:
then the next start goes as if there had been none before, and the server can be configured. Where
it is not at rest it is never stopped again and accepts nobody, whatever calls are made of it: a
start is taken for one of a server that runs, and no change of the configuration is made. -/
theorem atRest_iff_of_failure (settings : Settings) (handler : Option (Candidate (Handler ω)))
    (executor : Executor) {calls : List (Call ω)} {j' : Journal ω}
    (hs : (calls.foldlM Server.call (.made settings handler executor)).run j = (s, j'))
    (hstopped : s.state = .stopped) (hhandler : s.lacksHandler = false)
    (hfailure : network.failure? = some (step, trouble)) :
    ∃ left, s.start network = (.error (.trouble trouble), left)
      ∧ (left.AtRest ↔ AddressRefused step trouble)
      ∧ (left.AtRest → (∀ again, left.start again = s.start again)
        ∧ ∀ change, left.whileStopped change = .ok ())
      ∧ (¬left.AtRest → ∀ (later : List (Call ω)) k,
        let t := ((later.foldlM Server.call left).run k).1
        t.state ≠ .stopped ∧ t.accepting = false
          ∧ (∀ again, t.start again = (.ok (), t))
          ∧ ∀ change, t.whileStopped change = .error (.running change)) := by
  have hrest : s.AtRest := atRest_of_stopped hs hstopped
  have hstart := start_of_failure? hstopped hhandler hfailure
  have hidle : s.accepting = false := congrArg Standing.accepting hrest
  refine ⟨_, hstart, ?_⟩
  by_cases hrefused : AddressRefused step trouble
  · rw [leftBy_of_refused hrefused]
    have hleft : ({ s.composed with state := .stopped } : Server ω).AtRest :=
      (standing_of_stopped (s := s.composed) hstopped).trans hrest
    exact ⟨iff_of_true hleft hrefused,
      fun _ => ⟨start_of_refused hstopped hhandler, fun _ => rfl⟩, fun h => absurd hleft h⟩
  · -- A stranded server stays so under every call, and this is all that the rest needs.
    have hstranded : (s.composed.leftBy network trouble step).standing.Stranded :=
      stranded_leftBy (s := s.composed) hrefused hidle network
    have hleft : ¬(s.composed.leftBy network trouble step).AtRest := fun h =>
      hstranded.unstopped (congrArg Standing.state h)
    refine ⟨iff_of_false hleft hrefused, fun h => absurd h hleft, fun _ later k => ?_⟩
    have ht := standing_calls Standing.Stranded.moves hstranded later k
    exact ⟨ht.unstopped, ht.idle, start_of_stranded ht, whileStopped_of_stranded ht⟩

/-! ### A start that gets no thread, and one whose backlog is too long -/

/-- The address is free, but there is no thread to accept on. -/
def noThread : Network where
  trouble
    | .beginAccepting => some (.runtime "can't start new thread")
    | _ => none
  freePort := 49152

/-- A server whose application answers with nothing. -/
def tacit (settings : Settings) : Server Unit :=
  made settings (some (.function fun _ => return .nothing)) .workers

/-- One whose address was taken the first time. -/
def onceRefused : Server Unit := { (tacit .default).composed with state := .stopped }

/-- It says that it runs, and serves nobody for good. -/
theorem atRest_iff_noThread : ∃ left,
    onceRefused.start noThread = (.error (.trouble (.runtime "can't start new thread")), left)
      ∧ left.isRunning = true ∧ left.port = 8080
      ∧ ∀ (later : List (Call Unit)) k, let t := ((later.foldlM Server.call left).run k).1
        t.state ≠ .stopped ∧ t.accepting = false
          ∧ (∀ again, t.start again = (.ok (), t))
          ∧ ∀ change, t.whileStopped change = .error (.running change) := by
  have hrefused (j : Journal Unit) :
      ([.start takenAddress].foldlM Server.call (tacit .default)).run j = (onceRefused, j) := rfl
  have hfailure : noThread.failure?
      = some (.beginAccepting, .runtime "can't start new thread") := rfl
  obtain ⟨left, hstart, hrest, -, hstranded⟩ :=
    atRest_iff_of_failure .default _ .workers (hrefused ⟨⟨[], [], ""⟩, [], ()⟩) rfl rfl hfailure
  obtain rfl : (onceRefused.start noThread).2 = left := congrArg Prod.snd hstart
  have hleft : ¬(onceRefused.start noThread).2.AtRest := fun h =>
    absurd (hrest.mp h).2 (by decide)
  exact ⟨_, hstart, rfl, rfl, hstranded hleft⟩

/-- More connections may wait to be accepted than the system counts. -/
def longBacklog : Settings := { Settings.default with backlog := 2147483648 }

/-- The address is free, but such a backlog is no number for the system. -/
def narrowBacklog : Network where
  trouble
    | .listen => some (.other "OverflowError" "signed integer is greater than maximum")
    | _ => none
  freePort := 49152

/-- **A start may leave a server neither stopped nor running**, whose settings are as valid as the
usual ones: it cannot be started on any network after that, nor configured. -/
theorem not_atRest_longBacklog :
    longBacklog.validate = Settings.default.validate ∧
      let left := ((tacit longBacklog).start narrowBacklog).2
      ((tacit longBacklog).start narrowBacklog).1
          = .error (.trouble (.other "OverflowError" "signed integer is greater than maximum"))
        ∧ left.state = .starting ∧ ¬left.AtRest
        ∧ (∀ again, left.start again = (.ok (), left))
        ∧ ∀ change, left.whileStopped change = .error (.running change) := by
  refine ⟨rfl, rfl, rfl, fun h => ?_, fun _ => rfl, fun _ => rfl⟩
  exact absurd (congrArg Standing.state h) (by decide)

end Server

end HttpKit
