import HttpKit.Proofs.Server.Stages
import HttpKit.Proofs.Server.Parts

/-!
# What is left alone

Accepting, working on connections and shutting them change the connections of a server and which of
them it waits for, and nothing else of it (`SameApart`), except that accepting may end. The work on
one connection leaves the others as they are (`getElem?_work_of_ne`).
-/

namespace HttpKit

/-- A connection that was handed over and is not worked on yet. -/
def Connection.handed (p : Peer) : Connection := { Connection.ofPeer p with work := .waiting }

namespace Server

variable {ω : Type} {s s' s'' : Server ω} {place other : Nat} {f : Connection → Connection}

/-! ## The rest of a server -/

/-- Whether two servers differ in nothing but their connections and those they wait for. -/
def SameApart (s s' : Server ω) : Prop :=
  ∃ connections tracked, s' = { s with connections, tracked }

theorem SameApart.refl (s : Server ω) : s.SameApart s := ⟨_, _, rfl⟩

theorem SameApart.trans (h : s.SameApart s') (h' : s'.SameApart s'') : s.SameApart s'' := by
  obtain ⟨_, _, rfl⟩ := h
  obtain ⟨_, _, rfl⟩ := h'
  exact ⟨_, _, rfl⟩

theorem SameApart.state (h : s.SameApart s') : s'.state = s.state := by
  obtain ⟨_, _, rfl⟩ := h
  rfl

theorem SameApart.accepting (h : s.SameApart s') : s'.accepting = s.accepting := by
  obtain ⟨_, _, rfl⟩ := h
  rfl

theorem SameApart.executor (h : s.SameApart s') : s'.executor = s.executor := by
  obtain ⟨_, _, rfl⟩ := h
  rfl

theorem SameApart.encryption (h : s.SameApart s') : s'.encryption = s.encryption := by
  obtain ⟨_, _, rfl⟩ := h
  rfl

theorem SameApart.answering (h : s.SameApart s') : s'.answering = s.answering := by
  obtain ⟨_, _, rfl⟩ := h
  rfl

theorem sameApart_update (s : Server ω) (place : Nat) (f : Connection → Connection) :
    s.SameApart (s.update place f) := ⟨_, _, rfl⟩

theorem sameApart_untrack (s : Server ω) (place : Nat) : s.SameApart (s.untrack place) :=
  ⟨_, _, rfl⟩

theorem sameApart_abortTracked (s : Server ω) : s.SameApart s.abortTracked := by
  unfold abortTracked
  generalize s.tracked = places
  induction places generalizing s with
  | nil => exact .refl s
  | cons place places ih => exact (sameApart_update s place _).trans (ih _)

/-! ## Work -/

theorem update_update (s : Server ω) (place : Nat) (f g : Connection → Connection) :
    (s.update place f).update place g = s.update place (g ∘ f) := by
  rw [update, update, update, List.modify_modify_eq]

theorem update_self {c : Connection} (hc : s.connections[place]? = some c) :
    s.update place (fun _ => c) = s := by
  obtain ⟨hlt, rfl⟩ := List.getElem?_eq_some_iff.mp hc
  rw [update, ← List.set_eq_modify, List.set_getElem_self]

theorem acts_releasing (s : Server ω) (place : Nat) (work : Work) :
    s.acts place (releasing work)
      = (s.update place fun c => { c.close with work }).untrack place := by
  show ((s.update place Connection.close).untrack place).update place (fun c => { c with work })
    = _
  rw [update, untrack, untrack, update, update, List.modify_modify_eq]
  rfl

/-- The work on a connection changes it, and the server may no longer wait for it. -/
theorem work_forms (s : Server ω) (place : Nat) (j : Journal ω) :
    ∃ f, ((s.work place).run j).1 = s.update place f
      ∨ ((s.work place).run j).1 = (s.update place f).untrack place := by
  have hsame : s = s.update place id := by simp [update]
  cases hc : s.connections[place]? with
  | none =>
    refine ⟨id, Or.inl ?_⟩
    rw [← hsame, work, hc]
    rfl
  | some c =>
    by_cases hw : c.work = .waiting
    · obtain ⟨d, -, hrun | ⟨-, hrun⟩⟩ := work_parts hc hw j
      · exact ⟨_, Or.inl hrun⟩
      · refine ⟨fun _ => { d.close with work := .ended }, Or.inr ?_⟩
        rw [hrun, acts_releasing, update_update]
        rfl
    · refine ⟨id, Or.inl ?_⟩
      rw [← hsame, work_of_ended hc hw]

theorem sameApart_work (s : Server ω) (place : Nat) (j : Journal ω) :
    s.SameApart ((s.work place).run j).1 := by
  obtain ⟨f, h | h⟩ := s.work_forms place j <;> rw [h]
  · exact sameApart_update s place f
  · exact (sameApart_update s place f).trans (sameApart_untrack _ place)

theorem sameApart_workAll (s : Server ω) (places : List Nat) (j : Journal ω) :
    s.SameApart ((s.workAll places).run j).1 := by
  induction places generalizing s j with
  | nil => exact .refl s
  | cons place places ih => exact (sameApart_work s place j).trans (ih _ _)

@[simp]
theorem length_work (s : Server ω) (place : Nat) (j : Journal ω) :
    ((s.work place).run j).1.connections.length = s.connections.length := by
  obtain ⟨f, h | h⟩ := s.work_forms place j <;> rw [h]
  · exact length_update s place f
  · exact length_update s place f

/-- **The work on one connection leaves the others as they are.** -/
theorem getElem?_work_of_ne (h : place ≠ other) (s : Server ω) (j : Journal ω) :
    ((s.work place).run j).1.connections[other]? = s.connections[other]? := by
  obtain ⟨f, hf | hf⟩ := s.work_forms place j <;> rw [hf]
  · exact getElem?_update_of_ne h f
  · exact getElem?_update_of_ne h f

/-- A connection stays its peer's, and work that was scheduled stays so or has ended. -/
theorem connections_work {c : Connection} (hc : s.connections[place]? = some c) (j : Journal ω) :
    ∃ c', ((s.work place).run j).1.connections = s.connections.set place c' ∧ c'.peer = c.peer
      ∧ (c.work ≠ .none → c'.work ≠ .none) := by
  by_cases hw : c.work = .waiting
  · obtain ⟨d, hparts, hrun | ⟨-, hrun⟩⟩ := work_parts hc hw j <;> rw [hrun]
    · refine ⟨d, ?_, hparts.keeps.1, fun hne => hparts.keeps.2 ▸ hne⟩
      rw [List.set_eq_modify]
      rfl
    · refine ⟨{ d.close with work := .ended }, ?_, ?_, fun _ => by simp⟩
      · rw [acts_releasing, update_update, List.set_eq_modify]
        rfl
      · exact d.peer_abort.trans hparts.keeps.1
  · obtain ⟨h, rfl⟩ := List.getElem?_eq_some_iff.mp hc
    rw [work_of_ended hc hw]
    exact ⟨_, (List.set_getElem_self h).symm, rfl, id⟩

theorem mem_tracked_of_work {j : Journal ω} (h : other ∈ ((s.work place).run j).1.tracked) :
    other ∈ s.tracked := by
  obtain ⟨f, hf | hf⟩ := s.work_forms place j <;> rw [hf] at h
  · exact h
  · exact (List.mem_filter.mp h).1

/-! ## Accepting -/

theorem connections_update_last {c : Connection} (h : s'.connections = s.connections ++ [c])
    (f : Connection → Connection) :
    (s'.update s.connections.length f).connections = s.connections ++ [f c] := by
  simp [update, h, List.modify_eq_set_getElem?]

theorem connections_acts (s : Server ω) (place : Nat) (todo : List Act) :
    (s.acts place todo).connections = (s.update place (Act.onAll todo)).connections := by
  induction todo generalizing s with
  | nil => exact (List.modify_id _ _).symm
  | cons a todo ih =>
    show ((s.act place a).acts place todo).connections = _
    rw [ih, update, connections_act, update, update, List.modify_modify_eq]
    rfl

theorem connections_handOver (s : Server ω) (p : Peer) :
    ((s.arrive p).act s.connections.length .handOver).connections
      = s.connections ++ [.handed p] :=
  connections_update_last rfl _

theorem sameApart_act (s : Server ω) (place : Nat) {a : Act} (h : a ≠ .endAccepting) :
    s.SameApart (s.act place a) := by
  cases a with
  | endAccepting => exact absurd rfl h
  | _ => exact ⟨_, _, rfl⟩

theorem sameApart_acts (s : Server ω) (place : Nat) {todo : List Act}
    (h : .endAccepting ∉ todo) : s.SameApart (s.acts place todo) := by
  induction todo generalizing s with
  | nil => exact .refl s
  | cons a todo ih =>
    rw [List.mem_cons, not_or] at h
    exact (sameApart_act s place (Ne.symm h.1)).trans (ih _ h.2)

theorem sameApart_schedule (s : Server ω) (place : Nat) (j : Journal ω) :
    s.SameApart ((s.schedule place).run j).1 := by
  have hhanded : s.SameApart (s.act place .handOver) := ⟨_, _, rfl⟩
  unfold schedule
  cases s.executor place with
  | later => exact hhanded
  | atOnce => exact hhanded.trans (sameApart_work _ place j)
  | rejected =>
    exact hhanded.trans (sameApart_acts _ place (by simp [Scheduling.acts, releasing]))
  | broken trouble => exact hhanded.trans (sameApart_acts _ place (by simp [Scheduling.acts]))

/-- What is done to a connection that is not handed over. Accepting ends or goes on after it. -/
theorem acts_dropping (s : Server ω) (place : Nat) (p : Peer) (trouble : Trouble) :
    s.acts place (p.dropping trouble)
      = let dropped := if trouble.isSystem then s.update place Connection.close else s
        if trouble.isSystem && p.closeTrouble.isNone then dropped else dropped.endAccepting := by
  unfold Peer.dropping
  cases trouble.isSystem with
  | false => rfl
  | true => cases p.closeTrouble <;> rfl

/-- **Accepting changes nothing of a server but its connections**, and whether it goes on. -/
theorem sameApart_accept (s : Server ω) (arrival : Arrival) (j : Journal ω) :
    s.SameApart ((s.accept arrival).run j).1
      ∨ s.endAccepting.SameApart ((s.accept arrival).run j).1 := by
  unfold accept
  split
  · exact Or.inl (.refl s)
  · match arrival with
    | .timedOut => exact Or.inl (.refl s)
    | .failed _ => exact Or.inr (.refl _)
    | .peer p =>
      have harrive : s.SameApart (s.arrive p) := ⟨_, _, rfl⟩
      cases ht : p.optionTrouble with
      | none =>
        simp only [ht]
        exact Or.inl (harrive.trans (sameApart_schedule _ _ j))
      | some trouble =>
        simp only [ht]
        rw [acts_dropping]
        dsimp only
        split
        · exact Or.inl (by split; exacts [harrive.trans (sameApart_update _ _ _), harrive])
        · exact Or.inr (by split <;> exact ⟨_, _, rfl⟩)

end Server

end HttpKit
