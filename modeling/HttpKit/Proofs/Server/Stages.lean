import HttpKit.Proofs.Server.Interleaving

/-!
# The life of a connection

From its arrival to its end a connection goes through stages, which are told by what it is and by
what is left to do with it (`Stage`). Never more than one thread has something to do with it. Each
step of a thread leads from one stage to another: `Stage.act` follows the acts, `Stage.submit`,
`Stage.advance`, `Stage.failed` and `Stage.served` the rest, and a stop that shuts the connection
meanwhile leaves it at its stage (`Stage.abort`).

`Accounted` says how what a connection is goes with what has happened to it.
-/

namespace HttpKit

/-! ## Acts -/

/-- What an act makes of a connection. -/
def Act.on : Act → Connection → Connection
  | handOver, c => { c with work := .waiting }
  | close, c => c.close
  | leave work, c => { c with work }
  | lose, c => { c with work := .lost }
  | endAccepting, c => c

/-- What acts make of a connection. -/
def Act.onAll (todo : List Act) (c : Connection) : Connection := todo.foldl (fun c a => a.on c) c

/-- What an act on the connection at a place makes of those that are waited for. -/
def Act.track (place : Nat) (tracked : List Nat) : Act → List Nat
  | handOver => tracked ++ [place]
  | leave _ => tracked.filter (· ≠ place)
  | close | lose | endAccepting => tracked

/-- Whether an act is one that a connection is ready for. -/
def Act.Fits : Act → Connection → Prop
  | handOver, c => c.work = .none
  | close, c => c.Free
  | leave work, c => c.work = .waiting ∧ c.phase = .closed ∧ (work = .ended ∨ work = .rejected)
  | lose, c => c.work = .waiting
  | endAccepting, _ => True

namespace Server

variable {ω : Type} (s : Server ω) (place : Nat) (a : Act)

theorem connections_act : (s.act place a).connections = (s.update place a.on).connections := by
  cases a with
  | endAccepting => exact (List.modify_id _ _).symm
  | _ => rfl

theorem tracked_act : (s.act place a).tracked = a.track place s.tracked := by
  cases a <;> rfl

theorem state_act : (s.act place a).state = s.state := by
  cases a <;> rfl

theorem accepting_act (h : s.accepting = false) : (s.act place a).accepting = false := by
  cases a with
  | endAccepting => rfl
  | _ => exact h

end Server

namespace Connection

variable {c : Connection}

/-- Whether the options of a connection failed in another way than by a refusal of the system. -/
def Ignored (c : Connection) : Prop := ∃ trouble ∈ c.peer.optionTrouble, trouble.isSystem = false

theorem peer_abort (c : Connection) : c.abort.peer = c.peer := by
  unfold abort
  split <;> rfl

theorem phase_abort (c : Connection) : c.abort.phase = c.phase := by
  unfold abort
  split <;> rfl

theorem work_abort (c : Connection) : c.abort.work = c.work := by
  unfold abort
  split <;> rfl

theorem isOpen_abort (h : c.isOpen = false) : c.abort.isOpen = false := by
  unfold abort
  split
  · exact h
  · rfl

theorem Ignored.abort (h : c.Ignored) : c.abort.Ignored := by
  rwa [Ignored, peer_abort]

theorem Free.abort (h : c.Free) : c.abort.Free := fun hp =>
  isOpen_abort (h (c.phase_abort ▸ hp))

end Connection

theorem Act.peer_on (a : Act) (c : Connection) : (a.on c).peer = c.peer := by
  cases a with
  | close => exact c.peer_abort
  | _ => rfl

theorem Act.isOpen_on (a : Act) {c : Connection} (h : c.isOpen = false) :
    (a.on c).isOpen = false := by
  cases a with
  | close => exact Connection.isOpen_abort h
  | _ => exact h

/-! ## Stages -/

/-- Tasks of one thread, while the other has nothing to do. -/
def only (thread : Thread) (tasks : List Task) : Thread → List Task :=
  Function.update (fun _ => []) thread tasks

theorem only_self (thread : Thread) (tasks : List Task) : only thread tasks thread = tasks := by
  rw [only, Function.update_self]

theorem only_nil (thread : Thread) : only thread [] = fun _ => [] :=
  Function.update_eq_self thread _

theorem update_only (thread : Thread) (tasks rest : List Task) :
    Function.update (only thread tasks) thread rest = only thread rest :=
  Function.update_idem _ _ _

theorem only_eq_cons {thread other : Thread} {task : Task} {tasks rest : List Task}
    (h : only other tasks thread = task :: rest) : thread = other ∧ tasks = task :: rest := by
  by_cases hthread : thread = other
  · subst hthread
    exact ⟨rfl, (only_self thread tasks).symm.trans h⟩
  · rw [only, Function.update_of_ne hthread] at h
    cases h

/-- What is left to do with a connection whose work was offered. -/
def Scheduling.left : Scheduling → Thread → List Task
  | later | atOnce => only .worker serving
  | rejected => only .acceptor ((releasing .rejected).map .act)
  | broken _ => only .acceptor [.act .lose, .act .close]

theorem update_offered (answer : Scheduling) :
    Function.update (Function.update (only .acceptor [.submit]) .acceptor
      (answer.acts.map .act ++ [])) .worker answer.worker = answer.left := by
  have hnothing : Function.update (fun _ : Thread => ([] : List Task)) .worker [] = fun _ => [] :=
    Function.update_eq_self _ _
  have hworker : ∀ tasks,
      Function.update (only .acceptor tasks) .worker [] = only .acceptor tasks := by
    intro tasks
    rw [only, Function.update_comm (by simp), hnothing]
  rw [List.append_nil, update_only]
  cases answer with
  | later | atOnce =>
    rw [Scheduling.acts, List.map_nil, only_nil]
    rfl
  | rejected | broken =>
    rw [Scheduling.worker, hworker]
    rfl

/-- Where a connection is in its life, with what is left to do with it. -/
inductive Stage : Connection → (Thread → List Task) → Prop where
  | accepted {c : Connection} (hw : c.work = .none) (hp : c.phase = .new) :
      Stage c (only .acceptor [.act .handOver, .submit])
  /-- Its options are refused. -/
  | dropping {c : Connection} {rest : List Task} (hw : c.work = .none) (hp : c.phase = .new)
      (hrest : rest = [] ∨ rest = [.act .endAccepting]) :
      Stage c (only .acceptor (.act .close :: rest))
  /-- It was dropped, or left as it is. -/
  | unused {c : Connection} {rest : List Task} (hw : c.work = .none)
      (hrest : rest = [] ∨ rest = [.act .endAccepting]) (hp : c.phase = .closed ∨ c.Ignored) :
      Stage c (only .acceptor rest)
  | handed {c : Connection} (hw : c.work = .waiting) (hp : c.phase = .new) :
      Stage c (only .acceptor [.submit])
  | served {c : Connection} (hw : c.work = .waiting) (hp : c.phase ≠ .closed) :
      Stage c (only .worker serving)
  | released {c : Connection} {thread : Thread} {work : Work} (hw : c.work = .waiting)
      (hfree : c.Free) (hwork : work = .ended ∨ work = .rejected) :
      Stage c (only thread ((releasing work).map .act))
  | closed {c : Connection} {thread : Thread} {work : Work} (hw : c.work = .waiting)
      (hp : c.phase = .closed) (hwork : work = .ended ∨ work = .rejected) :
      Stage c (only thread [.act (.leave work)])
  /-- Scheduling the work on it broke. -/
  | losing {c : Connection} (hw : c.work = .waiting) (hp : c.phase = .new) :
      Stage c (only .acceptor [.act .lose, .act .close])
  | lost {c : Connection} (hw : c.work = .lost) (hp : c.phase = .new) :
      Stage c (only .acceptor [.act .close])
  | finished {c : Connection} (hw : c.work = .ended ∨ c.work = .rejected ∨ c.work = .lost)
      (hp : c.phase = .closed) : Stage c fun _ => []

namespace Stage

variable {c : Connection} {todo : Thread → List Task} {thread : Thread} {a : Act}
  {rest : List Task}

theorem program (p : Peer) : Stage (.ofPeer p) (only .acceptor p.program) := by
  unfold Peer.program
  cases ht : p.optionTrouble with
  | none => exact .accepted rfl rfl
  | some trouble =>
    simp only [Peer.dropping]
    split
    · refine .dropping rfl rfl ?_
      split <;> simp
    · next hsystem => exact .unused rfl (Or.inr rfl) (Or.inr ⟨trouble, ht, by simpa using hsystem⟩)

/-- **An act that is next leads to the stage after it.** -/
theorem act (h : Stage c todo) (hhead : todo thread = .act a :: rest) :
    a.Fits c ∧ Stage (a.on c) (Function.update todo thread rest) := by
  have hfree : c.phase = .new → c.Free := fun hp hp' => absurd (hp.symm.trans hp') (by simp)
  cases h with
  | served => exact absurd (only_eq_cons hhead).2 (by simp [serving])
  | handed => exact absurd (only_eq_cons hhead).2 (by simp)
  | finished => cases hhead
  | accepted hw hp =>
    obtain ⟨rfl, htasks⟩ := only_eq_cons hhead
    cases htasks
    rw [update_only]
    exact ⟨hw, .handed rfl hp⟩
  | dropping hw hp hrest =>
    obtain ⟨rfl, htasks⟩ := only_eq_cons hhead
    cases htasks
    rw [update_only]
    exact ⟨hfree hp, .unused ((c.work_abort).trans hw) hrest (Or.inl rfl)⟩
  | unused hw hrest hp =>
    obtain ⟨rfl, htasks⟩ := only_eq_cons hhead
    rcases hrest with rfl | rfl
    · cases htasks
    · cases htasks
      rw [update_only]
      exact ⟨trivial, .unused hw (Or.inl rfl) hp⟩
  | released hw hfree hwork =>
    obtain ⟨rfl, htasks⟩ := only_eq_cons hhead
    cases htasks
    rw [update_only]
    exact ⟨hfree, .closed ((c.work_abort).trans hw) rfl hwork⟩
  | closed hw hp hwork =>
    obtain ⟨rfl, htasks⟩ := only_eq_cons hhead
    cases htasks
    rw [update_only, only_nil]
    exact ⟨⟨hw, hp, hwork⟩, .finished (by simpa [Act.on, ← or_assoc] using Or.inl hwork) hp⟩
  | losing hw hp =>
    obtain ⟨rfl, htasks⟩ := only_eq_cons hhead
    cases htasks
    rw [update_only]
    exact ⟨hw, .lost rfl hp⟩
  | lost hw hp =>
    obtain ⟨rfl, htasks⟩ := only_eq_cons hhead
    cases htasks
    rw [update_only, only_nil]
    exact ⟨hfree hp, .finished (Or.inr (Or.inr ((c.work_abort).trans hw))) rfl⟩

/-- **Work that is offered is taken, refused or lost.** -/
theorem submit (h : Stage c todo) (hhead : todo .acceptor = .submit :: rest)
    (answer : Scheduling) :
    Stage c (Function.update (Function.update todo .acceptor (answer.acts.map .act ++ rest)) .worker
      answer.worker) := by
  obtain ⟨hw, hp, rfl, rfl⟩ : c.work = .waiting ∧ c.phase = .new ∧ todo = only .acceptor [.submit]
      ∧ rest = [] := by
    cases h with
    | handed hw hp => exact ⟨hw, hp, rfl, (List.cons.inj (only_eq_cons hhead).2).2.symm⟩
    | unused hw hrest hp =>
      rcases hrest with rfl | rfl <;> exact absurd (only_eq_cons hhead).2 (by simp)
    | finished => cases hhead
    | _ => exact absurd (only_eq_cons hhead).2 (by simp [serving, releasing])
  rw [update_offered]
  cases answer with
  | later | atOnce => exact .served hw (by simp [hp])
  | rejected => exact .released hw (fun hp' => absurd (hp.symm.trans hp') (by simp)) (Or.inr rfl)
  | broken => exact .losing hw hp

theorem served_of_exchange (h : Stage c todo) (hhead : todo .worker = .exchange :: rest) :
    c.work = .waiting ∧ c.phase ≠ .closed ∧ todo = only .worker serving
      ∧ rest = (releasing .ended).map .act := by
  cases h with
  | served hw hp => exact ⟨hw, hp, rfl, (List.cons.inj (only_eq_cons hhead).2).2.symm⟩
  | unused hw hrest hp =>
    rcases hrest with rfl | rfl <;> exact absurd (only_eq_cons hhead).2 (by simp)
  | finished => cases hhead
  | _ => exact absurd (only_eq_cons hhead).2 (by simp [releasing])

/-- A worker stays in its exchange. -/
theorem advance (h : Stage c todo) (hhead : todo .worker = .exchange :: rest) {phase : Phase}
    (hphase : phase ≠ .closed) (writes : List Bytes) : Stage (c.advance phase writes) todo := by
  obtain ⟨hw, hp, rfl, rfl⟩ := h.served_of_exchange hhead
  exact .served hw hphase

theorem failed (h : Stage c todo) (hhead : todo .worker = .exchange :: rest) :
    Stage c.failed todo := by
  obtain ⟨hw, hp, rfl, rfl⟩ := h.served_of_exchange hhead
  exact .served hw (by simp [Connection.failed])

/-- An exchange that is over is followed by the release of the connection. -/
theorem release (h : Stage c todo) (hhead : todo .worker = .exchange :: rest) (hfree : c.Free) :
    Stage c (Function.update todo .worker rest) := by
  obtain ⟨hw, hp, rfl, rfl⟩ := h.served_of_exchange hhead
  rw [update_only]
  exact .released hw hfree (Or.inl rfl)

/-- Shutting a connection leaves it at its stage. -/
theorem abort (h : Stage c todo) : Stage c.abort todo := by
  cases h with
  | accepted hw hp => exact .accepted (c.work_abort.trans hw) (c.phase_abort.trans hp)
  | dropping hw hp hrest => exact .dropping (c.work_abort.trans hw) (c.phase_abort.trans hp) hrest
  | unused hw hrest hp =>
    exact .unused (c.work_abort.trans hw) hrest
      (hp.imp c.phase_abort.trans Connection.Ignored.abort)
  | handed hw hp => exact .handed (c.work_abort.trans hw) (c.phase_abort.trans hp)
  | served hw hp => exact .served (c.work_abort.trans hw) (c.phase_abort.symm ▸ hp)
  | released hw hfree hwork => exact .released (c.work_abort.trans hw) hfree.abort hwork
  | closed hw hp hwork => exact .closed (c.work_abort.trans hw) (c.phase_abort.trans hp) hwork
  | losing hw hp => exact .losing (c.work_abort.trans hw) (c.phase_abort.trans hp)
  | lost hw hp => exact .lost (c.work_abort.trans hw) (c.phase_abort.trans hp)
  | finished hw hp => exact .finished (c.work_abort.symm ▸ hw) (c.phase_abort.trans hp)

/-! ### What a stage says -/

/-- Something is left to do with a connection whose work has neither ended nor been given up. -/
theorem exists_todo_iff (h : Stage c todo) (hw : c.work ≠ .none) :
    ((∃ thread, todo thread ≠ []) ∨ c.work = .lost) ↔ c.work = .waiting ∨ c.work = .lost := by
  have hsome : ∀ thread tasks, tasks ≠ [] → ∃ other, only thread tasks other ≠ [] :=
    fun thread tasks ht => ⟨thread, by rwa [only_self]⟩
  cases h with
  | accepted hw' => exact absurd hw' hw
  | dropping hw' => exact absurd hw' hw
  | unused hw' => exact absurd hw' hw
  | finished hw' => rcases hw' with hw' | hw' | hw' <;> simp [hw']
  | lost hw' => simp [hw']
  | handed hw' => simp [hw', hsome]
  | served hw' => simp [hw', hsome, serving]
  | released hw' => simp [hw', hsome, releasing]
  | closed hw' => simp [hw', hsome]
  | losing hw' => simp [hw', hsome]

/-- A connection with which the accepting thread has nothing to do is closed, or it was ignored, or
the work on it has not ended. -/
theorem closed_or_of_idle (h : Stage c todo) (hidle : todo .acceptor = []) :
    c.phase = .closed ∨ c.Ignored ∨ c.work = .waiting := by
  cases h with
  | unused hw hrest hp => exact hp.imp id Or.inl
  | finished hw hp => exact Or.inl hp
  | served hw hp => exact Or.inr (Or.inr hw)
  | released hw => exact Or.inr (Or.inr hw)
  | closed hw hp => exact Or.inl hp
  | accepted | dropping | handed | losing | lost => simp [only_self] at hidle

/-- Workers have nothing to do with a connection that was not handed over. -/
theorem worker_of_none (h : Stage c todo) (hw : c.work = .none) : todo .worker = [] := by
  cases h with
  | accepted | dropping | unused => rfl
  | finished hw' => rfl
  | handed hw' | losing hw' | lost hw' => rfl
  | served hw' => simp [hw] at hw'
  | released hw' => simp [hw] at hw'
  | closed hw' => simp [hw] at hw'

end Stage

/-! ## What has happened to a connection -/

/-- What a connection is, told by what has happened to it. -/
structure Accounted (events : List Event) (tracked : List Nat) (place : Nat) (c : Connection) :
    Prop where
  handed : .act place .handOver ∈ events ↔ c.work ≠ .none
  left : (∃ work, .act place (.leave work) ∈ events) ↔ c.work = .ended ∨ c.work = .rejected
  lost : .act place .lose ∈ events ↔ c.work = .lost
  tracked : place ∈ tracked ↔ c.work = .waiting ∨ c.work = .lost
  closed : .act place .close ∈ events ↔ c.phase = .closed
  isOpen : c.phase = .closed → c.isOpen = false
  shut : c.isOpen = false → c.phase = .closed ∨ .abort place ∈ events ∨ .fail place ∈ events

namespace Accounted

variable {events : List Event} {e : Event} {tracked tracked' : List Nat} {place : Nat}
  {c : Connection} {a : Act}

/-- A step about another connection leaves the account as it is. -/
theorem frame (h : Accounted events tracked place c) (he : e.place? ≠ some place)
    (ht : place ∈ tracked' ↔ place ∈ tracked) : Accounted (events ++ [e]) tracked' place c := by
  have hmem : ∀ e' : Event, e'.place? = some place → (e' ∈ events ++ [e] ↔ e' ∈ events) := by
    intro e' he'
    have hne : e' ≠ e := fun hee => he (hee ▸ he')
    simp [hne]
  obtain ⟨handed, left, lost, waited, closed, isOpen, shut⟩ := h
  constructor
  · rwa [hmem _ rfl]
  · exact (exists_congr fun _ => hmem _ rfl).trans left
  · rwa [hmem _ rfl]
  · rwa [ht]
  · rwa [hmem _ rfl]
  · exact isOpen
  · rwa [hmem _ rfl, hmem _ rfl]

/-- What does not show on a connection. -/
theorem pass (h : Accounted events tracked place c)
    (he : e = .submit place ∨ e = .served place ∨ e = .miss place) :
    Accounted (events ++ [e]) tracked place c := by
  obtain ⟨handed, left, lost, waited, closed, isOpen, shut⟩ := h
  rcases he with rfl | rfl | rfl <;> constructor <;> simp_all

theorem new {p : Peer} (hwaited : place ∉ tracked) (hnone : ∀ e ∈ events, e.place? ≠ some place) :
    Accounted events tracked place (.ofPeer p) := by
  have habsent : ∀ e : Event, e.place? = some place → e ∉ events := fun e he hm => hnone e hm he
  constructor
  · simpa [Connection.ofPeer] using habsent _ rfl
  · simpa [Connection.ofPeer] using fun work => habsent (.act place (.leave work)) rfl
  · simpa [Connection.ofPeer] using habsent _ rfl
  · simpa [Connection.ofPeer] using hwaited
  · simpa [Connection.ofPeer] using habsent _ rfl
  · simp [Connection.ofPeer]
  · simp [Connection.ofPeer]

/-- **The account after an act.** -/
theorem act (h : Accounted events tracked place c) (hfit : a.Fits c) :
    Accounted (events ++ [.act place a]) (a.track place tracked) place (a.on c) := by
  obtain ⟨handed, left, lost, waited, closed, isOpen, shut⟩ := h
  cases a with
  | close =>
    have hclose := Connection.close_of_free hfit
    constructor <;> simp_all [Act.on, Act.track]
  | leave work =>
    obtain ⟨hw, hp, rfl | rfl⟩ := hfit <;> constructor <;> simp_all [Act.on, Act.track]
  | _ => constructor <;> simp_all [Act.on, Act.track, Act.Fits]

theorem advance (h : Accounted events tracked place c) (hp : c.phase ≠ .closed) {phase : Phase}
    (hphase : phase ≠ .closed) (writes : List Bytes) :
    Accounted (events ++ [.progress place]) tracked place (c.advance phase writes) := by
  obtain ⟨handed, left, lost, waited, closed, isOpen, shut⟩ := h
  constructor <;> simp_all [Connection.advance]

theorem failed (h : Accounted events tracked place c) (hphase : c.phase = .shaking) :
    Accounted (events ++ [.fail place]) tracked place c.failed := by
  obtain ⟨handed, left, lost, waited, closed, isOpen, shut⟩ := h
  constructor <;> simp_all [Connection.failed]

theorem abort (h : Accounted events tracked place c) (hphase : c.phase ≠ .shaking) :
    Accounted (events ++ [.abort place]) tracked place c.abort := by
  obtain ⟨handed, left, lost, waited, closed, isOpen, shut⟩ := h
  constructor <;> simp_all [Connection.abort]

end Accounted

end HttpKit
