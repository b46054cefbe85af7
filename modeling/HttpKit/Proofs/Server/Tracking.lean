import HttpKit.Proofs.Server.Stages
import Mathlib.Data.List.DropRight

/-!
# No connection is lost

Whatever order the steps of a server come in, it waits for exactly those connections that were
handed over and with which something is left to do, and when a stop has come to its end every
connection is closed, but for those whose sockets were out of reach.

## How the argument goes

* every connection is at a stage of its life, and what it is goes with what has happened to it
  (`Stage`, `Accounted`). A step about one connection leaves the others as they are (`Apart`)
* `Sound` says this of all connections, and of the server that a connection still waited for while
  a stop shuts what is left is shut, or about to be, or was out of the stop's reach
* `Sound.step` has one case for every step, and `Sound.steps` is the induction over them
-/

namespace HttpKit

variable {ω : Type}

variable {events : List Event} {e : Event} {place other : Nat} {c : Connection} {m m' : Moment ω}
  {f : Connection → Connection}

/-! ## Two moments -/

/-- What is left to do with the connection at a place. -/
def Moment.tasks (m : Moment ω) (place : Nat) : Thread → List Task := (m.todo · place)

namespace Moment

variable {s : Server ω} {thread : Thread} {rest : List Task}

theorem tasks_goOn : (m.goOn s thread place rest).tasks place
    = Function.update (m.tasks place) thread rest := by
  funext other
  by_cases h : other = thread
  · subst h
    simp [tasks, goOn]
  · simp [tasks, goOn, h]

theorem tasks_goOn_of_ne (h : place ≠ other) :
    (m.goOn s thread place rest).tasks other = m.tasks other := by
  funext t
  by_cases ht : t = thread
  · subst ht
    simp [tasks, goOn, h.symm]
  · simp [tasks, goOn, ht]

end Moment

/-- Whether two moments differ in nothing but one connection and what is left to do with it. -/
structure Apart (m m' : Moment ω) (place : Nat) (f : Connection → Connection) : Prop where
  connections : m'.server.connections = (m.server.update place f).connections
  rest : ∀ other, place ≠ other → m'.tasks other = m.tasks other
  tracked : ∀ other, place ≠ other → (other ∈ m'.server.tracked ↔ other ∈ m.server.tracked)
  state : m'.server.state = m.server.state
  accepting : m.server.accepting = false → m'.server.accepting = false

namespace Apart

theorem getElem? (h : Apart m m' place f) (hc : m.server.connections[place]? = some c) :
    m'.server.connections[place]? = some (f c) := by
  rw [h.connections]
  exact Server.getElem?_update hc f

theorem getElem?_of_ne (h : Apart m m' place f) (hne : place ≠ other) :
    m'.server.connections[other]? = m.server.connections[other]? := by
  rw [h.connections]
  exact Server.getElem?_update_of_ne hne f

theorem length (h : Apart m m' place f) :
    m'.server.connections.length = m.server.connections.length := by
  rw [h.connections, Server.length_update]

/-- A step with which the accepting thread has nothing to do finds and leaves it idle. -/
theorem idle (h : Apart m m' place f) (hidle : m.Idle) (hplace : m'.tasks place .acceptor = []) :
    m'.Idle := by
  intro other
  by_cases hother : place = other
  · subst hother
    exact hplace
  · exact (congrFun (h.rest other hother) .acceptor).trans (hidle other)

end Apart

/-! ## The server -/

/-- Whether a stop has come to a connection since its time was over, and could not shut it because
a handshake held its socket. -/
def Missed (events : List Event) (place : Nat) : Prop :=
  .miss place ∈ events.rtakeWhile (· ≠ .deadline)

theorem Missed.append (h : Missed events place) (he : e ≠ .deadline) :
    Missed (events ++ [e]) place := by
  rw [Missed, List.rtakeWhile_concat_pos _ _ _ (by simpa using he)]
  exact List.mem_append_left _ h

theorem missed_append_miss (events : List Event) (place : Nat) :
    Missed (events ++ [.miss place]) place := by
  rw [Missed, List.rtakeWhile_concat_pos _ _ _ (by simp)]
  exact List.mem_append_right _ (List.mem_singleton.mpr rfl)

theorem Missed.mem (h : Missed events place) : .miss place ∈ events :=
  (List.rtakeWhile_suffix _ _).subset h

/-- What holds while a stop shuts the connections that are left over. -/
structure Draining (events : List Event) (m : Moment ω) (leftover : List Nat) : Prop where
  stopping : m.server.state = .stopping
  ended : m.server.accepting = false
  idle : m.Idle
  /-- Connections still waited for are shut or about to be, or out of reach. -/
  waited : ∀ place ∈ m.server.tracked, place ∈ leftover
    ∨ (∃ c, m.server.connections[place]? = some c ∧ c.isOpen = false) ∨ Missed events place

/-- What holds of a server after what has happened to it. -/
structure Sound (events : List Event) (m : Moment ω) : Prop where
  accounted : ∀ place c, m.server.connections[place]? = some c →
    Accounted events m.server.tracked place c
  staged : ∀ place c, m.server.connections[place]? = some c → Stage c (m.tasks place)
  /-- Nothing has happened to a connection that is not there. -/
  absent : ∀ place, m.server.connections.length ≤ place → place ∉ m.server.tracked
    ∧ (∀ e ∈ events, e.place? ≠ some place) ∧ m.tasks place = fun _ => []
  nodup : m.server.tracked.Nodup
  draining : ∀ leftover, m.leftover = some leftover → Draining events m leftover
  stopped : m.server.state = .stopped → m.server.accepting = false ∧ m.Idle
    ∧ (.breakOff ∉ events → ∀ place c, m.server.connections[place]? = some c →
      c.isOpen = false ∨ .miss place ∈ events ∨ c.Ignored)

namespace Draining

variable {leftover : List Nat}

/-- A step about one connection that does not open it does not disturb a stop. -/
theorem apart (h : Draining events m leftover) (hapart : Apart m m' place f)
    (hc : m.server.connections[place]? = some c) (hplace : m'.tasks place .acceptor = [])
    (htracked : place ∈ m'.server.tracked → place ∈ m.server.tracked)
    (hshut : c.isOpen = false → (f c).isOpen = false) (he : e ≠ .deadline) :
    Draining (events ++ [e]) m' leftover where
  stopping := hapart.state.trans h.stopping
  ended := hapart.accepting h.ended
  idle := hapart.idle h.idle hplace
  waited q hq := by
    have hq' : q ∈ m.server.tracked := by
      by_cases hqp : place = q
      · exact hqp ▸ htracked (hqp ▸ hq)
      · exact (hapart.tracked q hqp).mp hq
    refine (h.waited q hq').imp id (Or.imp ?_ (·.append he))
    rintro ⟨d, hd, hopen⟩
    by_cases hqp : place = q
    · subst hqp
      obtain rfl := Option.some.inj (hc.symm.trans hd)
      exact ⟨f c, hapart.getElem? hc, hshut hopen⟩
    · exact ⟨d, (hapart.getElem?_of_ne hqp).trans hd, hopen⟩

/-- A step about no connection that goes on with the stop does not disturb it either. -/
theorem frame {s' : Server ω} (h : Draining events m leftover) (he : e ≠ .deadline)
    (hconnections : s'.connections = m.server.connections)
    (htracked : s'.tracked = m.server.tracked) (hstate : s'.state = .stopping)
    (haccepting : s'.accepting = false) {leftover' : Option (List Nat)} :
    Draining (events ++ [e]) { m with server := s', leftover := leftover' } leftover where
  stopping := hstate
  ended := haccepting
  idle := h.idle
  waited q hq := by
    rw [show s'.connections = _ from hconnections]
    exact (h.waited q (htracked ▸ hq)).imp id (Or.imp id (·.append he))

end Draining

namespace Sound

/-- **A step about one connection** keeps the server sound if the account of that connection and
its stage are right after it, and it has not been opened again. -/
theorem apart (h : Sound events m) (hapart : Apart m m' place f)
    (hc : m.server.connections[place]? = some c) (he : e.place? = some place)
    (haccount : Accounted (events ++ [e]) m'.server.tracked place (f c))
    (hstage : Stage (f c) (m'.tasks place)) (hnodup : m'.server.tracked.Nodup)
    (hacceptor : m.tasks place .acceptor = [] → m'.tasks place .acceptor = [])
    (hpeer : (f c).peer = c.peer) (hshut : c.isOpen = false → (f c).isOpen = false)
    (hdraining : ∀ leftover, m'.leftover = some leftover → Draining (events ++ [e]) m' leftover) :
    Sound (events ++ [e]) m' where
  -- What is shown of the one connection is given, and any other is as it was.
  accounted q d hd := by
    by_cases hq : place = q
    · subst hq
      obtain rfl := Option.some.inj ((hapart.getElem? hc).symm.trans hd)
      exact haccount
    · have hd' := (hapart.getElem?_of_ne hq).symm.trans hd
      exact (h.accounted q d hd').frame (by simpa [he] using hq) (hapart.tracked q hq)
  staged q d hd := by
    by_cases hq : place = q
    · subst hq
      obtain rfl := Option.some.inj ((hapart.getElem? hc).symm.trans hd)
      exact hstage
    · have hd' := (hapart.getElem?_of_ne hq).symm.trans hd
      rw [hapart.rest q hq]
      exact h.staged q d hd'
  absent q hq := by
    obtain ⟨htracked, hevents, htasks⟩ := h.absent q (hapart.length ▸ hq)
    have hne : place ≠ q := by
      rintro rfl
      exact absurd (List.getElem?_eq_none (hapart.length ▸ hq)) (by simp [hc])
    refine ⟨(hapart.tracked q hne).not.mpr htracked, List.forall_mem_append.mpr ⟨hevents, ?_⟩,
      (hapart.rest q hne).trans htasks⟩
    simpa [he] using hne
  nodup := hnodup
  draining := hdraining
  stopped hs := by
    obtain ⟨haccepting, hidle, hclosed⟩ := h.stopped (hapart.state ▸ hs)
    refine ⟨hapart.accepting haccepting, hapart.idle hidle (hacceptor (hidle place)),
      fun hb q d hd => ?_⟩
    have hclosed := hclosed fun hm => hb (List.mem_append_left _ hm)
    by_cases hq : place = q
    · subst hq
      obtain rfl := Option.some.inj ((hapart.getElem? hc).symm.trans hd)
      refine (hclosed place c hc).imp hshut (Or.imp (List.mem_append_left _) fun hi => ?_)
      rwa [Connection.Ignored, hpeer]
    · have hd' := (hapart.getElem?_of_ne hq).symm.trans hd
      exact (hclosed q d hd').imp id (Or.imp (List.mem_append_left _) id)

/-- A step about no connection leaves the accounts as they are. -/
theorem frame {s' : Server ω} {leftover' : Option (List Nat)} (h : Sound events m)
    (he : e.place? = none) (hconnections : s'.connections = m.server.connections)
    (htracked : s'.tracked = m.server.tracked)
    (hdraining : ∀ leftover, leftover' = some leftover →
      Draining (events ++ [e]) { m with server := s', leftover := leftover' } leftover)
    (hstopped : s'.state = .stopped → s'.accepting = false ∧ m.Idle
      ∧ (.breakOff ∉ events ++ [e] → ∀ place c, m.server.connections[place]? = some c →
        c.isOpen = false ∨ .miss place ∈ events ∨ c.Ignored)) :
    Sound (events ++ [e]) { m with server := s', leftover := leftover' } where
  accounted q d hd := by
    have hd' : m.server.connections[q]? = some d := hconnections ▸ hd
    exact (h.accounted q d hd').frame (by simp [he])
      (by rw [show s'.tracked = _ from htracked])
  staged q d hd := h.staged q d (hconnections ▸ hd)
  absent q hq := by
    obtain ⟨hwaited, hevents, htasks⟩ := h.absent q (hconnections ▸ hq)
    exact ⟨htracked ▸ hwaited, List.forall_mem_append.mpr ⟨hevents, by simp [he]⟩, htasks⟩
  nodup := htracked ▸ h.nodup
  draining := hdraining
  stopped hs := by
    obtain ⟨haccepting, hidle, hclosed⟩ := hstopped hs
    refine ⟨haccepting, hidle, fun hb q d hd => ?_⟩
    exact (hclosed hb q d (hconnections ▸ hd)).imp id (Or.imp (List.mem_append_left _) id)

theorem frame_same {s' : Server ω} (h : Sound events m) (he : e.place? = none)
    (hdeadline : e ≠ .deadline) (hconnections : s'.connections = m.server.connections)
    (htracked : s'.tracked = m.server.tracked) (hstate : s'.state = m.server.state)
    (haccepting : m.server.accepting = false → s'.accepting = false) :
    Sound (events ++ [e]) { m with server := s' } := by
  refine h.frame he hconnections htracked ?_ fun hs => ?_
  · intro leftover hl
    have hd := h.draining leftover hl
    exact hd.frame hdeadline hconnections htracked (hstate.trans hd.stopping) (haccepting hd.ended)
  · obtain ⟨ha, hidle, hclosed⟩ := h.stopped (hstate ▸ hs)
    exact ⟨haccepting ha, hidle, fun hb => hclosed fun hm => hb (List.mem_append_left _ hm)⟩

theorem exists_of_place (h : Sound events m) (hm : e ∈ events) (he : e.place? = some place) :
    ∃ c, m.server.connections[place]? = some c := by
  by_contra hnone
  have hlen : m.server.connections.length ≤ place := by
    rw [← List.getElem?_eq_none_iff]
    exact Option.eq_none_iff_forall_ne_some.mpr fun c hc => hnone ⟨c, hc⟩
  exact (h.absent place hlen).2.1 e hm he

theorem exists_of_tracked (h : Sound events m) (hp : place ∈ m.server.tracked) :
    ∃ c, m.server.connections[place]? = some c := by
  have hlt : place < m.server.connections.length := by
    by_contra hlt
    exact (h.absent place (by omega)).1 hp
  exact ⟨_, List.getElem?_eq_getElem hlt⟩

theorem exists_of_task (h : Sound events m) {thread : Thread} {task : Task} {rest : List Task}
    (ht : m.todo thread place = task :: rest) : ∃ c, m.server.connections[place]? = some c := by
  have hlt : place < m.server.connections.length := by
    by_contra hlt
    have hnothing := congrFun (h.absent place (by omega)).2.2 thread
    exact absurd (ht.symm.trans hnothing) (by simp)
  exact ⟨_, List.getElem?_eq_getElem hlt⟩

/-! ### The steps -/

theorem arrive (h : Sound events m) (haccepting : m.server.accepting = true) (p : Peer) :
    Sound (events ++ [.arrive])
      (m.goOn (m.server.arrive p) .acceptor m.server.connections.length p.program) := by
  have hcases : ∀ {q d}, (m.server.connections ++ [Connection.ofPeer p])[q]? = some d →
      m.server.connections[q]? = some d ∧ m.server.connections.length ≠ q
        ∨ m.server.connections.length = q ∧ d = .ofPeer p := by
    intro q d hd
    rcases Nat.lt_or_ge q m.server.connections.length with hq | hq
    · exact Or.inl ⟨(List.getElem?_append_left hq).symm.trans hd, by omega⟩
    · have hlt := (List.getElem?_eq_some_iff.mp hd).1
      rw [List.length_append, List.length_singleton] at hlt
      obtain rfl : m.server.connections.length = q := by omega
      exact Or.inr ⟨rfl, (Option.some.inj (List.getElem?_concat_length.symm.trans hd)).symm⟩
  -- The place is new: nothing has happened there, and nothing is left to do.
  obtain ⟨hwaited, hevents, htasks⟩ := h.absent m.server.connections.length (Nat.le_refl _)
  constructor
  · intro q d hd
    rcases hcases hd with ⟨hd, -⟩ | ⟨rfl, rfl⟩
    · exact (h.accounted q d hd).frame (by simp [Event.place?]) Iff.rfl
    · exact .new hwaited (List.forall_mem_append.mpr ⟨hevents, by simp [Event.place?]⟩)
  · intro q d hd
    rcases hcases hd with ⟨hd, hq⟩ | ⟨rfl, rfl⟩
    · rw [Moment.tasks_goOn_of_ne hq]
      exact h.staged q d hd
    · rw [Moment.tasks_goOn, htasks]
      exact .program p
  · intro q hq
    have hlt : m.server.connections.length < q := by
      have hq' : (m.server.connections ++ [Connection.ofPeer p]).length ≤ q := hq
      rw [List.length_append, List.length_singleton] at hq'
      omega
    obtain ⟨hwaited, hevents, htasks⟩ := h.absent q (by omega)
    rw [Moment.tasks_goOn_of_ne (by omega)]
    exact ⟨hwaited, List.forall_mem_append.mpr ⟨hevents, by simp [Event.place?]⟩, htasks⟩
  · exact h.nodup
  · exact fun leftover hl => absurd (haccepting.symm.trans (h.draining leftover hl).ended) (by simp)
  · exact fun hs => absurd (haccepting.symm.trans (h.stopped hs).1) (by simp)

theorem apart_act {thread : Thread} (m : Moment ω) (place : Nat) (a : Act) (rest : List Task) :
    Apart m (m.goOn (m.server.act place a) thread place rest) place a.on where
  connections := m.server.connections_act place a
  rest other hother := Moment.tasks_goOn_of_ne hother
  tracked other hother := by
    show other ∈ (m.server.act place a).tracked ↔ _
    rw [Server.tracked_act]
    cases a <;> simp [Act.track, hother.symm]
  state := m.server.state_act place a
  accepting := m.server.accepting_act place a

theorem act (h : Sound events m) {thread : Thread} {a : Act} {rest : List Task}
    (ht : m.todo thread place = .act a :: rest) :
    Sound (events ++ [.act place a]) (m.goOn (m.server.act place a) thread place rest) := by
  obtain ⟨c, hc⟩ := h.exists_of_task ht
  have haccount := h.accounted place c hc
  have hstage := h.staged place c hc
  obtain ⟨hfit, hnext⟩ := hstage.act ht
  have hapart : Apart m (m.goOn (m.server.act place a) thread place rest) place a.on :=
    apart_act m place a rest
  have htracked : (m.goOn (m.server.act place a) thread place rest).server.tracked
      = a.track place m.server.tracked := m.server.tracked_act place a
  have hacceptor : m.tasks place .acceptor = [] →
      (m.goOn (m.server.act place a) thread place rest).tasks place .acceptor = [] := by
    intro hidle
    have hthread : Thread.acceptor ≠ thread := by
      rintro rfl
      exact absurd (ht.symm.trans hidle) (by simp)
    rwa [Moment.tasks_goOn, Function.update_of_ne hthread]
  refine h.apart hapart hc rfl ?_ ?_ ?_ hacceptor (a.peer_on c) a.isOpen_on ?_
  · rw [htracked]
    exact haccount.act hfit
  · rw [Moment.tasks_goOn]
    exact hnext
  · rw [htracked]
    cases a with
    | handOver =>
      have hnew : place ∉ m.server.tracked := fun hp => by
        have hw := haccount.tracked.mp hp
        rw [show c.work = .none from hfit] at hw
        simp at hw
      refine List.nodup_append.mpr ⟨h.nodup, by simp, ?_⟩
      rintro q hq _ hp rfl
      exact hnew (List.mem_singleton.mp hp ▸ hq)
    | leave work => exact h.nodup.filter _
    | _ => exact h.nodup
  · intro leftover hl
    have hd := h.draining leftover hl
    refine hd.apart hapart hc (hacceptor (hd.idle place)) ?_ a.isOpen_on (by simp)
    rw [htracked]
    cases a with
    | handOver =>
      -- No stop shuts connections before accepting has ended.
      have hworker := hstage.worker_of_none hfit
      cases thread with
      | acceptor => exact absurd (ht.symm.trans (hd.idle place)) (by simp)
      | worker => exact absurd (ht.symm.trans hworker) (by simp)
    | leave work => exact fun hp => (List.mem_filter.mp hp).1
    | _ => exact id

/-- A step after which a connection and those that are waited for are as before. -/
theorem pass (h : Sound events m) (hserver : m'.server = m.server)
    (hleftover : m'.leftover = m.leftover)
    (hrest : ∀ other, place ≠ other → m'.tasks other = m.tasks other)
    (hc : m.server.connections[place]? = some c) (hstage : Stage c (m'.tasks place))
    (hacceptor : m.tasks place .acceptor = [] → m'.tasks place .acceptor = [])
    (he : e = .submit place ∨ e = .served place) : Sound (events ++ [e]) m' := by
  have hapart : Apart m m' place id := by
    refine ⟨?_, hrest, fun _ _ => by rw [hserver], by rw [hserver], by rw [hserver]; exact id⟩
    rw [hserver]
    exact (List.modify_id _ _).symm
  refine h.apart hapart hc (by rcases he with rfl | rfl <;> rfl) ?_ hstage
    (hserver ▸ h.nodup) hacceptor rfl id ?_
  · rw [hserver]
    exact (h.accounted place c hc).pass (he.imp id Or.inl)
  · intro leftover hl
    have hd := h.draining leftover (hleftover ▸ hl)
    exact hd.apart hapart hc (hacceptor (hd.idle place)) (by rw [hserver]; exact id) id
      (by rcases he with rfl | rfl <;> simp)

theorem submit (h : Sound events m) {rest : List Task}
    (ht : m.todo .acceptor place = .submit :: rest) :
    Sound (events ++ [.submit place])
      ((m.goOn m.server .acceptor place
          ((m.server.executor place).acts.map .act ++ rest)).goOn
        m.server .worker place (m.server.executor place).worker) := by
  obtain ⟨c, hc⟩ := h.exists_of_task ht
  refine h.pass rfl rfl (fun other hother => ?_) hc ?_ (fun hidle => ?_) (Or.inl rfl)
  · rw [Moment.tasks_goOn_of_ne hother, Moment.tasks_goOn_of_ne hother]
  · rw [Moment.tasks_goOn, Moment.tasks_goOn]
    exact (h.staged place c hc).submit ht _
  · exact absurd (ht.symm.trans hidle) (by simp)

theorem served (h : Sound events m) {rest : List Task}
    (ht : m.todo .worker place = .exchange :: rest)
    (hc : m.server.connections[place]? = some c) (hfree : c.Free) :
    Sound (events ++ [.served place]) (m.goOn m.server .worker place rest) := by
  refine h.pass rfl rfl (fun other hother => Moment.tasks_goOn_of_ne hother) hc ?_
    (fun hidle => ?_) (Or.inr rfl)
  · rw [Moment.tasks_goOn]
    exact (h.staged place c hc).release ht hfree
  · rw [Moment.tasks_goOn, Function.update_of_ne (by simp)]
    exact hidle

/-- A step in which a connection changes, and nothing of what is left to do with it. -/
theorem update (h : Sound events m) (hc : m.server.connections[place]? = some c)
    (he : e.place? = some place) (hdeadline : e ≠ .deadline)
    (haccount : Accounted (events ++ [e]) m.server.tracked place (f c))
    (hstage : Stage (f c) (m.tasks place)) (hpeer : (f c).peer = c.peer)
    (hshut : c.isOpen = false → (f c).isOpen = false) {leftover' : Option (List Nat)}
    (hleftover : ∀ leftover, leftover' = some leftover → ∃ before, m.leftover = some before
      ∧ ∀ q ∈ before, q ∈ leftover ∨ q = place ∧ ((f c).isOpen = false
        ∨ Missed (events ++ [e]) place)) :
    Sound (events ++ [e])
      { m with server := m.server.update place f, leftover := leftover' } := by
  have hapart : Apart m { m with server := m.server.update place f, leftover := leftover' }
      place f := ⟨rfl, fun _ _ => rfl, fun _ _ => Iff.rfl, rfl, id⟩
  refine h.apart hapart hc he haccount hstage h.nodup id hpeer hshut ?_
  intro leftover hl
  obtain ⟨before, hbefore, hleft⟩ := hleftover leftover hl
  have hd := (h.draining before hbefore).apart hapart hc ((h.draining before hbefore).idle place)
    id hshut hdeadline
  refine ⟨hd.stopping, hd.ended, hd.idle, fun q hq => ?_⟩
  rcases hd.waited q hq with hq | hq
  · rcases hleft q hq with hq | ⟨rfl, hq⟩
    · exact Or.inl hq
    · exact Or.inr (hq.imp (fun hopen => ⟨f c, hapart.getElem? hc, hopen⟩) id)
  · exact Or.inr hq

theorem start (h : Sound events m) (network : Network) :
    Sound (events ++ [.start]) { m with server := (m.server.start network).2 } := by
  rcases Server.start_cases m.server network with heq | ⟨hs, hconnections, htracked, hstart⟩
  · rw [heq]
    exact h.frame_same rfl (by simp) rfl rfl rfl id
  · obtain ⟨ha, hidle, hclosed⟩ := h.stopped hs
    refine h.frame rfl hconnections htracked ?_ fun hs' => ?_
    · intro leftover hl
      exact absurd (hs.symm.trans (h.draining leftover hl).stopping) (by simp)
    · rcases hstart with haccepting | ⟨hrunning, -⟩
      · exact ⟨haccepting.trans ha, hidle,
          fun hb => hclosed fun hm => hb (List.mem_append_left _ hm)⟩
      · exact absurd (hrunning.symm.trans hs') (by simp)

theorem deadline (h : Sound events m) (hs : m.server.state = .stopping)
    (ha : m.server.accepting = false) (hidle : m.Idle) :
    Sound (events ++ [.deadline]) { m with leftover := some m.server.tracked } := by
  refine h.frame rfl rfl rfl ?_ fun hs' => absurd (hs.symm.trans hs') (by simp)
  intro leftover hl
  obtain rfl := Option.some.inj hl
  exact ⟨hs, ha, hidle, fun place hp => Or.inl hp⟩

/-- **When nothing is left to be shut, all is closed but what was out of reach.** -/
theorem closed_of_drained (h : Sound events m) (hd : Draining events m [])
    (hc : m.server.connections[place]? = some c) :
    c.phase = .closed ∨ c.Ignored
      ∨ c.work = .waiting ∧ (c.isOpen = false ∨ Missed events place) := by
  refine ((h.staged place c hc).closed_or_of_idle (hd.idle place)).imp id (Or.imp id fun hw => ?_)
  refine ⟨hw, ?_⟩
  rcases hd.waited place ((h.accounted place c hc).tracked.mpr (Or.inl hw)) with hp | hshut | hmiss
  · exact absurd hp List.not_mem_nil
  · obtain ⟨d, hd', hopen⟩ := hshut
    obtain rfl := Option.some.inj (hc.symm.trans hd')
    exact Or.inl hopen
  · exact Or.inr hmiss

theorem halt (h : Sound events m) (hl : m.leftover = some []) :
    Sound (events ++ [.halt]) { m with server := m.server.halted, leftover := none } := by
  have hd := h.draining _ hl
  refine h.frame rfl rfl rfl (fun leftover hl => by simp at hl) fun _ => ⟨hd.ended, hd.idle, ?_⟩
  intro _ place c hc
  rcases h.closed_of_drained hd hc with hp | hi | ⟨-, hopen | hmiss⟩
  · exact Or.inl ((h.accounted place c hc).isOpen hp)
  · exact Or.inr (Or.inr hi)
  · exact Or.inl hopen
  · exact Or.inr (Or.inl hmiss.mem)

/-- **Every step keeps a server sound.** -/
theorem step (h : Sound events m) (hs : Step m e m') : Sound (events ++ [e]) m' := by
  cases hs with
  | start network => exact h.start network
  | configure handler router chain encryption =>
    exact h.frame_same rfl (by simp) rfl rfl rfl id
  | arrive p haccepting hidle => exact h.arrive haccepting p
  | act ht => exact h.act ht
  | submit ht => exact h.submit ht
  | @progress place c rest phase writes ht hc hphase =>
    have hopen := ((h.staged place c hc).served_of_exchange ht).2.1
    exact h.update hc rfl (by simp) ((h.accounted place c hc).advance hopen hphase writes)
      ((h.staged place c hc).advance ht hphase writes) rfl id
      fun leftover hl => ⟨leftover, hl, fun q => Or.inl⟩
  | @fail place c rest ht hc hphase =>
    exact h.update hc rfl (by simp) ((h.accounted place c hc).failed hphase)
      ((h.staged place c hc).failed ht) rfl (fun _ => rfl)
      fun leftover hl => ⟨leftover, hl, fun q => Or.inl⟩
  | served ht hc hfree => exact h.served ht hc hfree
  | endAccepting hidle => exact h.frame_same rfl (by simp) rfl rfl rfl fun _ => rfl
  | stop hs =>
    refine h.frame rfl rfl rfl ?_ fun hs' => absurd hs' (by simp [Server.beginStop])
    -- No other stop is at its connections, as the server was running.
    intro leftover hl
    exact absurd (hs.symm.trans (h.draining leftover hl).stopping) (by simp)
  | deadline hs ha hidle hl => exact h.deadline hs ha hidle
  | @abort place c rest hl hc hphase =>
    refine h.update hc rfl (by simp) ((h.accounted place c hc).abort hphase)
      (h.staged place c hc).abort c.peer_abort Connection.isOpen_abort ?_
    intro leftover hl'
    obtain rfl := Option.some.inj hl'
    refine ⟨_, hl, fun q hq => (List.mem_cons.mp hq).symm.imp id fun hq => ⟨hq, Or.inl ?_⟩⟩
    rw [Connection.abort, if_neg hphase]
  | @miss place c rest hl hc hphase =>
    have hsame : c.abort = c := if_pos hphase
    refine h.update hc rfl (by simp) ?_ (h.staged place c hc).abort c.peer_abort
      Connection.isOpen_abort ?_
    · rw [hsame]
      exact (h.accounted place c hc).pass (Or.inr (Or.inr rfl))
    · intro leftover hl'
      obtain rfl := Option.some.inj hl'
      exact ⟨_, hl, fun q hq => (List.mem_cons.mp hq).symm.imp id fun hq =>
        ⟨hq, Or.inr (missed_append_miss events place)⟩⟩
  | halt hl => exact h.halt hl
  | breakOff hs ha hidle hl htracked hlong =>
    refine h.frame rfl rfl rfl (fun leftover hl' => by simp [hl] at hl') fun _ => ⟨ha, hidle, ?_⟩
    -- After a stop that broke off nothing is said of what is open.
    exact fun hb => absurd (List.mem_append_right _ (List.mem_singleton.mpr rfl)) hb

/-- **A server is sound after any sequence of steps.** -/
theorem steps {events' : List Event} (h : Sound events m) (hs : Steps m events' m') :
    Sound (events ++ events') m' := by
  induction hs with
  | refl => rwa [List.append_nil]
  | step _ hs ih =>
    rw [← List.append_assoc]
    exact ih.step hs

/-- A server that was just made is sound. -/
theorem made (settings : Settings) (handler : Option (Candidate (Handler ω)))
    (executor : Executor) : Sound [] (.between (Server.made settings handler executor)) where
  accounted place c hc := by simp [Moment.between, Server.made] at hc
  staged place c hc := by simp [Moment.between, Server.made] at hc
  absent place _ := by
    refine ⟨by simp [Moment.between, Server.made], by simp, ?_⟩
    funext thread
    cases thread <;> rfl
  nodup := List.nodup_nil
  draining leftover hl := by simp [Moment.between] at hl
  stopped _ := ⟨rfl, fun _ => rfl, fun _ place c hc => by simp [Moment.between, Server.made] at hc⟩

end Sound

/-! ## No connection is lost -/

/-- Whether a connection was handed over, and either something is left to do with it or scheduling
the work on it broke. -/
def Outstanding (events : List Event) (m : Moment ω) (place : Nat) : Prop :=
  .act place .handOver ∈ events
    ∧ ((∃ thread, m.todo thread place ≠ []) ∨ .act place .lose ∈ events)

namespace Sound

theorem tracked_iff (h : Sound events m) :
    place ∈ m.server.tracked ↔ Outstanding events m place := by
  have hthere : ∀ {c}, m.server.connections[place]? = some c →
      .act place .handOver ∈ events → (place ∈ m.server.tracked
        ↔ (∃ thread, m.todo thread place ≠ []) ∨ .act place .lose ∈ events) := by
    intro c hc hhanded
    have ha := h.accounted place c hc
    rw [ha.tracked, ha.lost, ← (h.staged place c hc).exists_todo_iff (ha.handed.mp hhanded)]
    rfl
  constructor
  · intro hp
    obtain ⟨c, hc⟩ := h.exists_of_tracked hp
    have ha := h.accounted place c hc
    have hhanded : .act place .handOver ∈ events := by
      rw [ha.handed]
      rcases ha.tracked.mp hp with hw | hw <;> simp [hw]
    exact ⟨hhanded, (hthere hc hhanded).mp hp⟩
  · rintro ⟨hhanded, hleft⟩
    obtain ⟨c, hc⟩ := h.exists_of_place hhanded rfl
    exact (hthere hc hhanded).mpr hleft

/-- A connection that was handed over and is not waited for was left. -/
theorem left_of_not_tracked (h : Sound events m) (hhanded : .act place .handOver ∈ events)
    (hp : place ∉ m.server.tracked) : ∃ work, .act place (.leave work) ∈ events := by
  obtain ⟨c, hc⟩ := h.exists_of_place hhanded rfl
  have ha := h.accounted place c hc
  have hw := ha.handed.mp hhanded
  rw [ha.tracked] at hp
  rw [ha.left]
  cases hwork : c.work <;> simp_all

/-- A connection that was left is not waited for. -/
theorem not_tracked_of_left (h : Sound events m) {work : Work}
    (hleft : .act place (.leave work) ∈ events) : place ∉ m.server.tracked := by
  obtain ⟨c, hc⟩ := h.exists_of_place hleft rfl
  have ha := h.accounted place c hc
  rw [ha.tracked]
  rcases ha.left.mp ⟨work, hleft⟩ with hw | hw <;> simp [hw]

/-- **A connection is left only once it is closed.** -/
theorem closed_of_left (h : Sound events m) (hs : Step m e m') (hp : place ∈ m.server.tracked)
    (hp' : place ∉ m'.server.tracked) : .act place .close ∈ events
      ∧ ∃ c, m.server.connections[place]? = some c ∧ c.isOpen = false := by
  -- It was not left before this step, so the step is the one that leaves it.
  have hhanded := (h.tracked_iff.mp hp).1
  obtain ⟨work, hleft⟩ := (h.step hs).left_of_not_tracked (List.mem_append_left _ hhanded) hp'
  have hnow : e = .act place (.leave work) := by
    rcases List.mem_append.mp hleft with hleft | hleft
    · exact absurd hp (h.not_tracked_of_left hleft)
    · exact (List.mem_singleton.mp hleft).symm
  subst hnow
  cases hs with
  | act ht =>
    obtain ⟨c, hc⟩ := h.exists_of_task ht
    have ha := h.accounted place c hc
    obtain ⟨-, hphase, -⟩ := ((h.staged place c hc).act ht).1
    exact ⟨ha.closed.mpr hphase, c, hc, ha.isOpen hphase⟩

/-- **A connection that was left is never waited for again.** -/
theorem not_tracked_of_steps {events' : List Event} (h : Sound events m) (hs : Steps m events' m')
    (hhanded : .act place .handOver ∈ events) (hp : place ∉ m.server.tracked) :
    place ∉ m'.server.tracked := by
  obtain ⟨work, hleft⟩ := h.left_of_not_tracked hhanded hp
  exact (h.steps hs).not_tracked_of_left (List.mem_append_left _ hleft)

/-- **When a stop has come to its end every connection is closed**, by whoever had to release or to
drop it, or by the stop or a handshake while its worker was still at it, but for those that the stop
missed and those that were ignored. -/
theorem closed_of_halt (h : Sound events m) (hs : Step m .halt m')
    (hc : m'.server.connections[place]? = some c) :
    c.isOpen = false ∧ (.act place .close ∈ events
        ∨ place ∈ m'.server.tracked ∧ (.abort place ∈ events ∨ .fail place ∈ events))
      ∨ place ∈ m'.server.tracked ∧ Missed events place ∨ c.Ignored := by
  cases hs with
  | halt hl =>
    have ha := h.accounted place c hc
    rcases h.closed_of_drained (h.draining _ hl) hc with hp | hi | ⟨hw, hopen | hmiss⟩
    · exact Or.inl ⟨ha.isOpen hp, Or.inl (ha.closed.mpr hp)⟩
    · exact Or.inr (Or.inr hi)
    · refine Or.inl ⟨hopen, ?_⟩
      exact (ha.shut hopen).imp ha.closed.mpr fun he => ⟨ha.tracked.mpr (Or.inl hw), he⟩
    · exact Or.inr (Or.inl ⟨ha.tracked.mpr (Or.inl hw), hmiss⟩)

end Sound

end HttpKit
