import HttpKit.Proofs.Server.Calls

/-!
# What a stop leaves behind

Whatever order the steps of a server come in, no connection is lost track of, and a stop that comes
to its end leaves none open that it could reach (`tracked_and_closed`). It does not reach the socket
that a handshake holds, a connection whose options failed in another way than by a refusal of the
system, and no connection at all where its time cannot be counted; a server whose start failed
halfway is not stopped at all (`open_after_stop`).
-/

namespace HttpKit

variable {ω : Type}

/-- **No connection is lost, whatever order the steps of a server come in.** It waits for exactly
those connections that were handed over and with which something is left to do, or whose scheduling
broke. It stops waiting for one only after the connection was closed, and never waits for it again.
When a stop has come to its end the server is stopped and every connection that was ever accepted is
closed: by whoever had to release or to drop it, or, where the work on it has not ended, by the stop
or by a handshake that failed. Those remain whose sockets were held by handshakes when the stop came
to them, and those whose options failed in another way than by a refusal of the system. A stop that
breaks off has a time that cannot be counted.

Whatever calls are made of a server come to such steps, and a stop that runs and returns is one that
comes to its end. -/
theorem tracked_and_closed (settings : Settings) (handler : Option (Candidate (Handler ω)))
    (executor : Executor) {events : List Event} {m : Moment ω}
    (hrun : Steps (.between (Server.made settings handler executor)) events m) :
    (∀ place, place ∈ m.server.tracked ↔ Outstanding events m place) ∧ m.server.tracked.Nodup
      ∧ (∀ e m', Step m e m' → ∀ place ∈ m.server.tracked, place ∉ m'.server.tracked →
        (.act place .close ∈ events
            ∧ ∃ c, m.server.connections[place]? = some c ∧ c.isOpen = false)
          ∧ ∀ events' m'', Steps m' events' m'' → place ∉ m''.server.tracked)
      ∧ (∀ m', Step m .halt m' → m'.server.state = .stopped
        ∧ ∀ place c, m'.server.connections[place]? = some c →
          c.isOpen = false ∧ (.act place .close ∈ events
              ∨ place ∈ m'.server.tracked ∧ (.abort place ∈ events ∨ .fail place ∈ events))
            ∨ place ∈ m'.server.tracked ∧ Missed events place ∨ c.Ignored)
      ∧ (m.server.state = .stopped → .breakOff ∉ events →
        ∀ place c, m.server.connections[place]? = some c →
          c.isOpen = false ∨ .miss place ∈ events ∨ c.Ignored)
      ∧ (.breakOff ∈ events → longestWait < settings.shutdownTimeout)
      ∧ ∀ s, m = .between s →
        (∀ (calls : List (Call ω)) j,
          ∃ events', Steps m events' (.between ((calls.foldlM Server.call s).run j).1))
          ∧ ∀ inTime j n s' j', s.state = .running →
            (s.stop inTime).run j = ((.ok n, s'), j') →
              (∃ events' m', Steps m events' m' ∧ Step m' .halt (.between s'))
                ∧ s'.state = .stopped ∧ ∀ c ∈ s'.connections,
                  c.isOpen = false ∨ c.work = .waiting ∧ c.phase = .shaking ∨ c.Ignored := by
  have h : Sound events m := (Sound.made settings handler executor).steps hrun
  refine ⟨fun place => h.tracked_iff, h.nodup, ?_, ?_, fun hs => (h.stopped hs).2.2, ?_, ?_⟩
  · intro e m' hs place hp hp'
    have hhanded : .act place .handOver ∈ events ++ [e] :=
      List.mem_append_left _ (h.tracked_iff.mp hp).1
    exact ⟨h.closed_of_left hs hp hp', fun events' m'' hs' =>
      (h.step hs).not_tracked_of_steps hs' hhanded hp'⟩
  · intro m' hs
    refine ⟨?_, fun place c hc => h.closed_of_halt hs hc⟩
    cases hs
    rfl
  · intro hb
    by_contra htime
    exact hrun.breakOff_not_mem htime hb
  · rintro s rfl
    refine ⟨fun calls j => Server.reaches_calls h calls j, ?_⟩
    intro inTime j n s' j' hs hstop
    obtain ⟨m', events', hsteps, hhalt, hclosed⟩ := Server.steps_stop h hs hstop
    refine ⟨⟨events', m', hsteps, hhalt⟩, ?_, hclosed⟩
    generalize hs' : Moment.between s' = m'' at hhalt
    cases hhalt
    exact congrArg (·.server.state) hs'

/-! ### A server that is stopped while it works -/

/-- Someone who sends nothing and stays. -/
def silentPeer : Peer := ⟨[.text "192.0.2.7", .int 50000], none, none, none, none⟩

/-- Someone whose connection cannot be set up. -/
def gonePeer : Peer := { silentPeer with optionTrouble := some (.system "Invalid argument") }

/-- A server with a handler. -/
def startingServer : Server Unit :=
  .made .default (some (.function fun _ => return .nothing)) .workers

/-- It starts, and four connections arrive. The third is dropped. -/
def arrivals : List (Call Unit) :=
  [.start ⟨fun _ => none, 49152⟩, .accept (.peer silentPeer), .accept (.peer silentPeer),
    .accept (.peer gonePeer), .accept (.peer silentPeer)]

/-- The server after that. -/
def busyServer : Server Unit := {
  startingServer with
  state := .running
  boundPort := some 8080
  listening := true
  accepting := true
  application := startingServer.compose
  connections := [.handed silentPeer, .handed silentPeer, (Connection.ofPeer gonePeer).close,
    .handed silentPeer]
  tracked := [0, 1, 3] }

/-- What happens then: one connection has been served while the server is stopped. Of the two that
are left when the time is over the last is in its handshake. -/
def history : List Event :=
  [.progress 3, .served 0, .stop, .act 0 .close, .endAccepting, .act 0 (.leave .ended), .deadline,
    .abort 1, .miss 3]

theorem reaches_busyServer : startingServer.Reaches busyServer :=
  Server.reaches_calls (.made _ _ _) arrivals ⟨⟨[], [], ""⟩, [], ()⟩

theorem steps_history : ∃ m, Steps (.between busyServer) history m ∧ m.leftover = some []
    ∧ m.server.tracked = [1, 3] := by
  have hshaking := Steps.single (m := .between busyServer) (e := .progress 3)
    (.progress .shaking [] rfl rfl (by decide))
  have hserved := hshaking.step (e := .served 0) (.served rfl rfl fun hp => nomatch hp)
  have hclosed := (hserved.step (.stop rfl)).step (@Step.act _ _ .worker 0 _ _ rfl)
  have hleft := (hclosed.step (.endAccepting fun _ => rfl)).step (@Step.act _ _ .worker 0 _ _ rfl)
  have hshut := (hleft.step (.deadline rfl rfl (fun _ => rfl) rfl)).step (e := .abort 1)
    (.abort rfl rfl (by decide))
  exact ⟨_, hshut.step (e := .miss 3) (.miss rfl rfl rfl), rfl, rfl⟩

theorem tracked_and_closed_history : ∃ events m, Steps (.between startingServer) events m
    ∧ m.server.tracked = [1, 3] ∧ (∀ place, place ∈ [1, 3] ↔ Outstanding events m place)
    ∧ ∃ m', Step m .halt m' ∧ m'.server.state = .stopped
      ∧ ∀ place c, m'.server.connections[place]? = some c →
        c.isOpen = false ∧ (.act place .close ∈ events
            ∨ place ∈ m'.server.tracked ∧ (.abort place ∈ events ∨ .fail place ∈ events))
          ∨ place ∈ m'.server.tracked ∧ Missed events place ∨ c.Ignored := by
  obtain ⟨events, hbusy⟩ := reaches_busyServer
  obtain ⟨m, hsteps, hleftover, hwaited⟩ := steps_history
  have hrun := hbusy.trans hsteps
  obtain ⟨htracked, -, -, hhalt, -⟩ := tracked_and_closed _ _ _ hrun
  rw [hwaited] at htracked
  exact ⟨_, m, hrun, hwaited, htracked, _, .halt hleftover, hhalt _ (.halt hleftover)⟩

/-! ### What a stop does not reach -/

/-- Encryption that waits for whoever is silent. -/
def patient : Encryption where
  shake p := if p.stream.isNone then .pending else .done
  stream_of_pending p h := by
    by_contra hs
    rw [if_neg (by simpa using hs)] at h
    cases h

/-- Someone whose connection is given a timeout that is too long to be set. -/
def timelessPeer : Peer := {
  silentPeer with
  optionTrouble := some (.other "OverflowError" "timestamp too large to convert to C _PyTime_t") }

/-- A server that waits too long for its connections to be counted. -/
def endlessServer : Server Unit := {
  startingServer with settings := { Settings.default with shutdownTimeout := 10000000000.0 } }

/-- The server after it has started and someone has come. -/
def endlessRunning : Server Unit := {
  endlessServer with
  state := .running
  boundPort := some 8080
  listening := true
  accepting := true
  application := startingServer.compose
  connections := [{ Connection.handed silentPeer with phase := .reading }]
  tracked := [0] }

/-- What calls, and then a stop, leave of a server. -/
def stopAfter (s : Server Unit) (calls : List (Call Unit)) : Except Trouble Nat × Server Unit :=
  ((do (← calls.foldlM Server.call s).stop [] : StateM (Journal Unit) _).run
    ⟨⟨[], [], ""⟩, [], ()⟩).1

/-- **A stop may leave a connection open, or the server as it was.** It does not shut a socket that
a handshake holds, nor a connection that could not be given its timeout, and none at all if its time
cannot be counted. A server whose start failed halfway is not stopped. -/
theorem open_after_stop :
    (∃ s, stopAfter { startingServer with encryption := some patient }
          [.start ⟨fun _ => none, 49152⟩, .accept (.peer silentPeer), .work 0] = (.ok 1, s)
        ∧ s.state = .stopped ∧ s.connections.map (·.isOpen) = [true])
      ∧ (∃ s, stopAfter startingServer
          [.start ⟨fun _ => none, 49152⟩, .accept (.peer timelessPeer)] = (.ok 0, s)
        ∧ s.state = .stopped ∧ s.connections.map (·.isOpen) = [true])
      ∧ (∃ s, stopAfter endlessServer
          [.start ⟨fun _ => none, 49152⟩, .accept (.peer silentPeer), .work 0]
            = (.error .waitTooLong, s)
        ∧ s.state = .stopped ∧ s.connections.map (·.isOpen) = [true])
      ∧ ∃ s, stopAfter startingServer
          [.start ⟨fun step => if step = .listen then some (.other "OverflowError" "") else none,
            0⟩] = (.ok 0, s)
        ∧ s.state = .starting := by
  have hlong : longestWait < 10000000000.0 := by decide +kernel
  have hstop := Server.stop_of_longTime (s := endlessRunning) rfl rfl (by simp [endlessRunning])
    hlong [] ⟨⟨[], [], ""⟩, [], ()⟩
  exact ⟨⟨_, rfl, rfl, rfl⟩, ⟨_, rfl, rfl, rfl⟩, ⟨_, congrArg Prod.fst hstop, rfl, rfl⟩,
    ⟨_, rfl, rfl⟩⟩

end HttpKit
