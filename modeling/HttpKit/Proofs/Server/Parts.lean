import HttpKit.Proofs.Server.Interleaving
import Mathlib.Logic.Relation

/-!
# The parts of an exchange

An exchange goes on from part to part, whatever its peer sends and however it ends
(`on_serve_parts`). Once it has come to an end no handshake holds the socket.
-/

namespace HttpKit

variable {ω : Type}

/-- A part of an exchange: its connection goes on and may be written to, or a handshake fails. -/
inductive Part : Connection → Connection → Prop where
  | advance (c : Connection) {phase : Phase} (writes : List Bytes) (hphase : phase ≠ .closed) :
      Part c (c.advance phase writes)
  | failed {c : Connection} (hphase : c.phase = .shaking) : Part c c.failed

/-- A connection that some parts of an exchange make of another. -/
abbrev Parts : Connection → Connection → Prop := Relation.ReflTransGen Part

namespace Parts

variable {c d : Connection}

theorem enter (h : Parts c d) {phase : Phase} (hphase : phase ≠ .closed) :
    Parts c { d with phase } := by
  have hpart := Part.advance d [] hphase
  rw [Connection.advance, List.append_nil] at hpart
  exact h.tail hpart

theorem keeps (h : Parts c d) : d.peer = c.peer ∧ d.work = c.work := by
  induction h with
  | refl => exact ⟨rfl, rfl⟩
  | tail _ hpart ih => cases hpart <;> exact ih

end Parts

namespace Exchange

variable {α β : Type} {P Q : Connection → Prop} {c : Connection}

/-- Whether something is so of the connection after a part of an exchange, however the part ends,
if something is so before it. -/
def Leads (P Q : Connection → Prop) (m : Exchange ω α) : Prop :=
  ∀ (c : Connection) (j : Journal ω), P c → Q (m.on c j).1.2

theorem leads_pure (a : α) : Leads Q Q (pure a : Exchange ω α) := fun _ _ hc => hc

theorem leads_throw (e : Drop) : Leads Q Q (throw e : Exchange ω α) := fun _ _ hc => hc

theorem Leads.of_imp {m : Exchange ω α} {P' : Connection → Prop} (h : Leads P Q m)
    (himp : ∀ c, P' c → P c) : Leads P' Q m := fun c j hc => h c j (himp c hc)

theorem leads_bind {m : Exchange ω α} {f : α → Exchange ω β} (hm : Leads P Q m)
    (hf : ∀ a, Leads Q Q (f a)) : Leads P Q (m >>= f) := by
  intro c j hc
  have hc' := hm c j hc
  rcases hrun : m.on c j with ⟨⟨outcome, c'⟩, j'⟩
  rw [hrun] at hc'
  cases outcome with
  | error e =>
    rw [on_bind_error hrun]
    exact hc'
  | ok a =>
    rw [on_bind_ok hrun]
    exact hf a c' j' hc'

theorem leads_peer : Leads Q Q (peer : Exchange ω Peer) := by
  intro c j hc
  cases ho : c.isOpen with
  | true => rwa [on_peer_of_open ho]
  | false => rwa [on_peer_of_shut ho]

/-! ## After the handshake -/

/-- What is so of the connection that a part of an exchange got, when the handshake is over. -/
structure Goes (c d : Connection) : Prop where
  parts : Parts c d
  unclosed : d.phase ≠ .closed
  free : d.phase ≠ .shaking

theorem leads_enter {phase : Phase} (hclosed : phase ≠ .closed) (hshaking : phase ≠ .shaking) :
    Leads (Parts c) (Goes c) (enter phase : Exchange ω Unit) :=
  fun _ _ hd => ⟨hd.enter hclosed, hclosed, hshaking⟩

theorem leads_readRequest :
    Leads (Parts c) (Goes c) (readRequest : Exchange ω (Option Request)) := by
  refine leads_bind (leads_enter (by simp) (by simp)) fun _ => ?_
  refine leads_bind leads_peer fun p => ?_
  cases p.stream with
  | none => exact leads_pure none
  | some stream =>
    simp only []
    cases (Wire.readRequest defaultLineLimit (some p.address) stream).1 with
    | ok request => exact leads_pure (some request)
    | error e => exact leads_throw (.request e)

theorem leads_respond (app : Handler ω) (request : Request) :
    Leads (Parts c) (Goes c) (respond app request) := by
  refine leads_bind (leads_enter (by simp) (by simp)) fun _ => ?_
  refine leads_bind (fun d j hd => ?_) fun reply => ?_
  · rwa [on_invoke rfl]
  · cases reply.demand "to_bytes" with
    | ok response => exact leads_pure response
    | error fault => exact leads_throw (.reply fault)

theorem leads_encode (response : Response) :
    Leads Q Q (encode response : Exchange ω Bytes) := by
  unfold encode
  cases response.toBytes? with
  | some bytes => exact leads_pure bytes
  | none => exact leads_throw .unencodable

theorem leads_send (bytes : Bytes) : Leads (Parts c) (Goes c) (send bytes : Exchange ω Unit) := by
  refine leads_bind (leads_enter (by simp) (by simp)) fun _ => ?_
  refine leads_bind leads_peer fun p => ?_
  refine leads_bind (fun d _ hd => ?_) fun _ => ?_
  · exact ⟨hd.parts.tail (.advance d [bytes] hd.unclosed), hd.unclosed, hd.free⟩
  · cases p.sendTrouble with
    | none => exact leads_pure ()
    | some trouble => exact leads_throw _

theorem leads_answer (app : Handler ω) : Leads (Parts c) (Goes c) (answer app) := by
  refine leads_bind leads_readRequest fun received => ?_
  cases received with
  | none => exact leads_pure false
  | some request =>
    refine leads_bind ((leads_respond app request).of_imp fun _ => Goes.parts) fun response => ?_
    refine leads_bind (leads_encode response) fun bytes => ?_
    exact leads_bind ((leads_send bytes).of_imp fun _ => Goes.parts) fun _ => leads_pure true

/-! ## The handshake -/

theorem on_shakeHands (encryption : Option Encryption) (c : Connection) (j : Journal ω) :
    ∃ outcome d, (shakeHands encryption).on c j = ((outcome, d), j) ∧ Parts c d
      ∧ ∀ e, outcome = .error e → d.Free := by
  cases encryption with
  | none => exact ⟨.ok true, c, rfl, .refl, by simp⟩
  | some encryption =>
    cases ho : c.isOpen with
    | false =>
      exact ⟨.error .shut, c, on_bind_error (on_peer_of_shut ho j) _, .refl, fun _ _ _ => ho⟩
    | true =>
      have hshaking : Parts c { c with phase := .shaking } := .enter .refl (by simp)
      rw [shakeHands, on_bind_ok (on_peer_of_open ho j), on_bind_ok (on_enter .shaking c j)]
      cases encryption.shake c.peer with
      | done => exact ⟨.ok true, { c with phase := .new }, rfl, .enter .refl (by simp), by simp⟩
      | failed trouble =>
        exact ⟨.error (.handshake trouble), c.failed, rfl, hshaking.tail (.failed rfl),
          fun _ _ _ => rfl⟩
      | pending => exact ⟨.ok false, { c with phase := .shaking }, rfl, hshaking, by simp⟩

/-- **An exchange goes on from part to part.** No handshake holds the socket once it is over. -/
theorem on_serve_parts (app : Handler ω) (encryption : Option Encryption) (c : Connection)
    (j : Journal ω) :
    ∃ outcome d j', (serve app encryption).on c j = ((outcome, d), j') ∧ Parts c d
      ∧ (outcome ≠ .ok false → d.Free) := by
  obtain ⟨outcome, d, hshake, hparts, hfree⟩ := on_shakeHands encryption c j
  match outcome with
  | .error e =>
    exact ⟨.error e, d, j, on_bind_error hshake _, hparts, fun _ => hfree e rfl⟩
  | .ok false => exact ⟨.ok false, d, j, on_bind_ok hshake _, hparts, by simp⟩
  | .ok true =>
    obtain ⟨hparts', -, hshaking⟩ := leads_answer (c := c) app d j hparts
    rw [serve, on_bind_ok hshake, if_pos rfl]
    exact ⟨_, _, _, rfl, hparts', fun _ hphase => absurd hphase hshaking⟩

end Exchange

namespace Server

variable {s : Server ω} {place : Nat} {c : Connection}

/-- **Work on a connection** goes on from part to part, and is followed by its release unless the
peer keeps it waiting. -/
theorem work_parts (hc : s.connections[place]? = some c) (hw : c.work = .waiting) (j : Journal ω) :
    ∃ d, Parts c d ∧ (((s.work place).run j).1 = s.update place (fun _ => d)
      ∨ d.Free ∧ ((s.work place).run j).1
        = (s.update place fun _ => d).acts place (releasing .ended)) := by
  obtain ⟨outcome, d, j', hserve, hparts, hfree⟩ :=
    Exchange.on_serve_parts s.answering s.encryption c j
  have hrun : ((Exchange.serve s.answering s.encryption).run.run c).run j = ((outcome, d), j') :=
    hserve
  refine ⟨d, hparts, ?_⟩
  rw [work, hc]
  simp only [hw, ne_eq, not_true_eq_false, if_false]
  rw [StateT.run_bind, hrun]
  cases outcome with
  | error e => exact Or.inr ⟨hfree (by simp), rfl⟩
  | ok finished =>
    cases finished with
    | true => exact Or.inr ⟨hfree (by simp), rfl⟩
    | false => exact Or.inl rfl

end Server

end HttpKit
