import HttpKit.Proofs.Middleware.Nesting
import HttpKit.Proofs.Middleware.Plan
import Mathlib.Data.List.Range

/-!
# What runs in a chain, and when

The calls that plans make lead from one middleware to the next and, unless one of them calls
nothing, up to the handler (`chains`). A run is watched by noting beside the state where it enters a
middleware, where it leaves it, and what is handled. Under watch a chain does what it does
otherwise, and what is seen are its calls (`shows_through`).

## How the argument goes

* `Plan.run_beside` is the step: if the rest of the way is watched then so is every plan that
  calls it, by induction on the plan
* `shows_through` is the run, by induction on the middleware
* `sights` and `chains` follow the same calls, so that every chain is seen at its end
  (`handled_sights`), none gets past a middleware without calls (`chains_of_callsTimes_zero`), and a
  single one gives the order of all places (`sights_of_callsTimes_one`)

`Chain.runs_nested` puts this together with what chains are.
-/

namespace HttpKit

/-- What is noted of a run. The middleware is given by its place. -/
inductive Sight where
  | entered (place : Nat)
  | left (place : Nat)
  | handled (request : Request)

/-- The request that is handled. -/
def Sight.handled? : Sight → Option Request
  | handled request => some request
  | _ => none

variable {ω α : Type}

/-! ## Notes beside a state -/

namespace Journal

/-- The journal with notes beside the application's own state. -/
def beside (j : Journal ω) (seen : List Sight) : Journal (ω × List Sight) where
  clock := j.clock
  log := j.log
  state := (j.state, seen)

/-- The journal without the notes. -/
def own (j : Journal (ω × List Sight)) : Journal ω where
  clock := j.clock
  log := j.log
  state := j.state.1

end Journal

namespace Run

/-- The run with notes beside the state, which it leaves alone. -/
def beside (run : Run ω α) : Run (ω × List Sight) α := ExceptT.mk fun j =>
  let (outcome, after) := run.run.run j.own
  (outcome, after.beside j.state.2)

/-- Notes what is seen. -/
def note (sight : Sight) : Run (ω × List Sight) Unit :=
  update fun (state, seen) => (state, seen ++ [sight])

theorem note_bind (sight : Sight) (rest : Unit → Run (ω × List Sight) α) (j : Journal ω)
    (seen : List Sight) :
    (note sight >>= rest).run.run (j.beside seen)
      = (rest ()).run.run (j.beside (seen ++ [sight])) := rfl

theorem run_beside {run : Run ω α} {j after : Journal ω} {outcome : Except Fault α}
    (h : run.run.run j = (outcome, after)) (seen : List Sight) :
    run.beside.run.run (j.beside seen) = (outcome, after.beside seen) := by
  change ((run.run.run j).1, (run.run.run j).2.beside seen) = _
  rw [h]

end Run

/-- The plan with notes beside the state, which it leaves alone. -/
def Plan.beside : Plan ω → Plan (ω × List Sight)
  | done outcome => .done outcome
  | read rest => .read fun j => (rest j.own).beside
  | write j rest => .read fun before => .write (j.beside before.state.2) rest.beside
  | call request rest => .call request fun outcome => (rest outcome).beside

/-- The middleware at a place, watched. -/
def Planned.watched (m : Planned ω) (place : Nat) : Middleware (ω × List Sight) where
  name := m.name
  apply request next := do
    Run.note (.entered place)
    let outcome ← ((m.plan request).beside.run next).attempt
    Run.note (.left place)
    Run.ofExcept outcome

/-- The handler, watched. -/
def Handler.watched (h : Handler ω) : Handler (ω × List Sight) := fun request => do
  Run.note (.handled request)
  (h request).beside

/-! ## Calls and what is seen of them -/

/-- Middleware around a handler. -/
def through (ms : List (Planned ω)) (h : Handler ω) : Handler ω :=
  (Chain.empty.extend (ms.map Planned.middleware)).wrap h

/-- Middleware around a handler, everything watched. Places are counted from the given one. -/
def watchedThrough (ms : List (Planned ω)) (place : Nat) (h : Handler ω) :
    Handler (ω × List Sight) :=
  (Chain.empty.extend ((ms.zipIdx place).map fun (m, i) => m.watched i)).wrap h.watched

/-- The chains of calls from one middleware to the next that get to the handler. -/
def chains : List (Planned ω) → Handler ω → Invocation ω → List (List (Invocation ω))
  | [], _, outer => [[outer]]
  | m :: rest, h, outer =>
    (m.calls (through rest h) outer).flatMap fun inner => (chains rest h inner).map (outer :: ·)

/-- What is seen of a run. -/
def sights : List (Planned ω) → Nat → Handler ω → Invocation ω → List Sight
  | [], _, _, outer => [.handled outer.request]
  | m :: rest, place, h, outer =>
    .entered place
      :: (m.calls (through rest h) outer).flatMap (sights rest (place + 1) h) ++ [.left place]

/-! ## Watched runs -/

/-- Whether a handler does what another one does and notes what is seen of it. -/
def Shows (watched : Handler (ω × List Sight)) (h : Handler ω) (seen : Invocation ω → List Sight) :
    Prop :=
  ∀ request j outcome after before, (h request).run.run j = (outcome, after) →
    (watched request).run.run (j.beside before)
      = (outcome, after.beside (before ++ seen ⟨request, j⟩))

theorem shows_watched (h : Handler ω) :
    Shows h.watched h fun outer => [.handled outer.request] := by
  intro request j outcome after before hrun
  rw [Handler.watched, Run.note_bind]
  exact Run.run_beside hrun _

/-- **A plan before a watched handler is watched.** -/
theorem Plan.run_beside {watched : Handler (ω × List Sight)} {next : Handler ω}
    {seen : Invocation ω → List Sight} (hnext : Shows watched next seen) {s : Plan ω}
    {j after : Journal ω} {outcome : Except Fault Reply}
    (hrun : (s.run next).run.run j = (outcome, after)) (before : List Sight) :
    (s.beside.run watched).run.run (j.beside before)
      = (outcome, after.beside (before ++ (s.calls next j).flatMap seen)) := by
  induction s generalizing j before with
  | done outcome' =>
    cases hrun
    rw [calls, List.flatMap_nil, List.append_nil]
    rfl
  | read rest ih => exact ih j hrun before
  | write j' rest ih => exact ih hrun before
  | call request rest ih =>
    obtain ⟨outcome', j', hcall⟩ : ∃ outcome' j', (next request).run.run j = (outcome', j') :=
      ⟨_, _, rfl⟩
    have hrest : ((rest outcome').run next).run.run j' = (outcome, after) := by
      rwa [Plan.run, Run.attempt_bind hcall] at hrun
    have hcalls : (Plan.call request rest).calls next j
        = ⟨request, j⟩ :: (rest outcome').calls next j' := by
      rw [calls, hcall]
    rw [hcalls, List.flatMap_cons, ← List.append_assoc, ← ih outcome' hrest]
    exact Run.attempt_bind (hnext _ _ _ _ before hcall) _

/-- **A middleware before a watched handler is watched.** -/
theorem Planned.shows_around {watched : Handler (ω × List Sight)} {next : Handler ω}
    {seen : Invocation ω → List Sight} (hnext : Shows watched next seen) (m : Planned ω)
    (place : Nat) :
    Shows ((m.watched place).around watched) (m.middleware.around next) fun outer =>
      .entered place :: (m.calls next outer).flatMap seen ++ [.left place] := by
  intro request j outcome after before hrun
  have hplan := Plan.run_beside hnext hrun (before ++ [.entered place])
  change (Run.note (.entered place) >>= fun _ =>
    ((m.plan request).beside.run watched).attempt >>= fun outcome =>
      Run.note (.left place) >>= fun _ => Run.ofExcept outcome).run.run _ = _
  rw [Run.note_bind, Run.attempt_bind hplan, Run.note_bind, List.append_assoc, List.append_assoc,
    List.singleton_append]
  rfl

theorem through_cons (m : Planned ω) (rest : List (Planned ω)) (h : Handler ω) :
    through (m :: rest) h = m.middleware.around (through rest h) := by
  rw [through, through, Chain.wrap_extend_empty, Chain.wrap_extend_empty]
  rfl

theorem through_append (before after : List (Planned ω)) (h : Handler ω) :
    through (before ++ after) h = through before (through after h) := by
  rw [through, through, through, Chain.wrap_extend_empty, Chain.wrap_extend_empty,
    Chain.wrap_extend_empty, List.map_append, nest_append]

theorem watchedThrough_cons (m : Planned ω) (rest : List (Planned ω)) (place : Nat)
    (h : Handler ω) :
    watchedThrough (m :: rest) place h
      = (m.watched place).around (watchedThrough rest (place + 1) h) := by
  rw [watchedThrough, watchedThrough, Chain.wrap_extend_empty, Chain.wrap_extend_empty]
  rfl

/-- **A watched chain does what the chain does**, and what is seen of it are its calls. -/
theorem shows_through (ms : List (Planned ω)) (place : Nat) (h : Handler ω) :
    Shows (watchedThrough ms place h) (through ms h) (sights ms place h) := by
  induction ms generalizing place with
  | nil => exact shows_watched h
  | cons m rest ih =>
    rw [watchedThrough_cons, through_cons]
    exact m.shows_around (ih (place + 1)) place

/-! ## Chains of calls -/

section Chains

variable {ms before after : List (Planned ω)} {m : Planned ω} {h : Handler ω}
  {outer inner last : Invocation ω}

/-- Whether a call comes to what is behind some middleware. -/
def Reaches (before : List (Planned ω)) (behind : Handler ω) (outer inner : Invocation ω) : Prop :=
  ∃ chain ∈ chains before behind outer, chain.getLast? = some inner

/-- Whether a middleware calls the rest so many times whenever a call comes to it. -/
def CallsTimes (n : Nat) (before : List (Planned ω)) (m : Planned ω) (after : List (Planned ω))
    (h : Handler ω) (outer : Invocation ω) : Prop :=
  ∀ inner, Reaches before (through (m :: after) h) outer inner →
    (m.calls (through after h) inner).length = n

/-- **Every chain of calls is seen at its end**, in the order of the chains. -/
theorem handled_sights (ms : List (Planned ω)) (place : Nat) (h : Handler ω)
    (outer : Invocation ω) :
    List.Forall₂ (fun request chain => chain.getLast?.map Invocation.request = some request)
      ((sights ms place h outer).filterMap Sight.handled?) (chains ms h outer) := by
  induction ms generalizing place outer with
  | nil => exact .cons rfl .nil
  | cons m rest ih =>
    have hhandled : (sights (m :: rest) place h outer).filterMap Sight.handled?
        = (m.calls (through rest h) outer).flatMap fun inner =>
          (sights rest (place + 1) h inner).filterMap Sight.handled? := by
      rw [sights, List.cons_append, List.filterMap_cons_none rfl, List.filterMap_append,
        List.filterMap_flatMap]
      exact List.append_nil _
    rw [hhandled, chains]
    refine List.rel_flatMap (List.forall₂_eq_eq_eq ▸ rfl) fun inner _ he => ?_
    subst he
    refine List.forall₂_map_right_iff.mpr ((ih (place + 1) inner).imp fun request chain hend => ?_)
    obtain ⟨last, hlast, rfl⟩ := Option.map_eq_some_iff.mp hend
    rw [List.getLast?_cons, hlast]
    rfl

theorem reaches_cons (hinner : inner ∈ m.calls (through before h) outer)
    (hreaches : Reaches before h inner last) : Reaches (m :: before) h outer last := by
  obtain ⟨chain, hchain, hlast⟩ := hreaches
  refine ⟨outer :: chain, ?_, by rw [List.getLast?_cons, hlast]; rfl⟩
  exact List.mem_flatMap.mpr ⟨inner, hinner, List.mem_map_of_mem hchain⟩

/-- **No chain gets past a middleware that calls nothing.** -/
theorem chains_of_callsTimes_zero (hm : CallsTimes 0 before m after h outer) :
    chains (before ++ m :: after) h outer = [] := by
  induction before generalizing outer with
  | nil =>
    have hnone := hm outer ⟨[outer], List.mem_singleton.mpr rfl, rfl⟩
    rw [List.nil_append, chains, List.length_eq_zero_iff.mp hnone, List.flatMap_nil]
  | cons m' before ih =>
    rw [List.cons_append, chains, List.flatMap_eq_nil_iff]
    intro inner hinner
    rw [through_append] at hinner
    rw [ih fun last hlast => hm last (reaches_cons hinner hlast), List.map_nil]

/-- **If every middleware makes one call** the run goes in through all of them in order, and out in
the other order. -/
theorem sights_of_callsTimes_one (place : Nat)
    (hms : ∀ before m after, ms = before ++ m :: after → CallsTimes 1 before m after h outer) :
    ∃ request, sights ms place h outer
      = (List.range' place ms.length).map .entered
        ++ .handled request :: (List.range' place ms.length).reverse.map .left := by
  induction ms generalizing place outer with
  | nil => exact ⟨outer.request, rfl⟩
  | cons m rest ih =>
    obtain ⟨inner, hcalls⟩ := List.length_eq_one_iff.mp
      (hms [] m rest rfl outer ⟨[outer], List.mem_singleton.mpr rfl, rfl⟩)
    have hrest : ∀ before m' after, rest = before ++ m' :: after →
        CallsTimes 1 before m' after h inner := by
      intro before m' after hsplit last hlast
      refine hms (m :: before) m' after (congrArg _ hsplit) last (reaches_cons ?_ hlast)
      rw [← through_append, ← hsplit, hcalls]
      exact List.mem_singleton.mpr rfl
    obtain ⟨request, hinner⟩ := ih (place + 1) hrest
    refine ⟨request, ?_⟩
    rw [sights, hcalls, List.flatMap_singleton, hinner, List.length_cons, List.range'_succ]
    simp

end Chains

/-- Whether a chain does under watch what it does otherwise, and what is seen of it. -/
def Seen (ms : List (Planned ω)) (h : Handler ω) (outer : Invocation ω) (seen : List Sight) :
    Prop :=
  ∃ outcome after, (through ms h outer.request).run.run outer.journal = (outcome, after)
    ∧ (watchedThrough ms 0 h outer.request).run.run (outer.journal.beside [])
      = (outcome, after.beside seen)

theorem seen_sights (ms : List (Planned ω)) (h : Handler ω) (outer : Invocation ω) :
    Seen ms h outer (sights ms 0 h outer) :=
  ⟨_, _, rfl, shows_through ms 0 h _ _ _ _ [] rfl⟩

/-- **A chain is nested application of its middleware.** Along every tree of chains, each of them
shows its middleware in the order in which it was added, gives every middleware the rest of the way,
and stays as it is whatever is made of it later. A chain that follows another one goes inside.

Around every handler, plans of any kind run as follows. The handler runs once for every chain of
calls that gets to it, with the request at the end of that chain. It does not run if there is a
middleware that calls nothing whenever a call comes to it. If all of them call the rest exactly once
the run goes in through all of them in order and out in the other order. -/
theorem Chain.runs_nested (steps more : List (Nat × Candidate (Middleware ω))) :
    List.Forall₂ Represents (versions steps) (listedVersions steps)
      ∧ versions steps <+: versions (steps ++ more)
      ∧ (∀ (c d : Chain ω) h, (c.extend d.toList).wrap h = c.wrap (d.wrap h))
      ∧ ∀ (ms : List (Planned ω)) (h : Handler ω) (outer : Invocation ω), ∃ seen,
        Seen ms h outer seen
        ∧ List.Forall₂ (fun request chain => chain.getLast?.map Invocation.request = some request)
          (seen.filterMap Sight.handled?) (chains ms h outer)
        ∧ (∀ before m rest, ms = before ++ m :: rest → CallsTimes 0 before m rest h outer →
          seen.filterMap Sight.handled? = [])
        ∧ ((∀ before m rest, ms = before ++ m :: rest → CallsTimes 1 before m rest h outer) →
          ∃ request, seen = (List.range ms.length).map .entered
            ++ .handled request :: (List.range ms.length).reverse.map .left) := by
  refine ⟨represents_listed steps, Versions.history_prefix _ _ _, wrap_extend, ?_⟩
  intro ms h outer
  have hhandled := handled_sights ms 0 h outer
  refine ⟨sights ms 0 h outer, seen_sights ms h outer, hhandled, ?_, ?_⟩
  · rintro before m rest rfl hm
    rw [chains_of_callsTimes_zero hm] at hhandled
    exact List.forall₂_nil_right_iff.mp hhandled
  · intro hms
    rw [List.range_eq_range']
    exact sights_of_callsTimes_one 0 hms

/-! ## Three chains -/

/-- Calls the rest with another target. -/
def elsewhere : Planned Unit where
  name := "elsewhere"
  plan request := .call { request with target := "/b" } .done

/-- Calls the rest again, whatever it ends with. -/
def retrying : Planned Unit where
  name := "retrying"
  plan request := .call request fun _ => .call request .done

/-- Raises and calls nothing. -/
def refusing : Planned Unit where
  name := "refusing"
  plan _ := .done (.error (.raised "PermissionError" "refused"))

def answering : Handler Unit := fun _ => return .response (.text 200 "ok")

/-- A request that arrives before anything has happened. -/
def asked : Invocation Unit where
  request :=
    { method := .get, target := "/a", version := Request.defaultVersion, headers := .ofList []
      body := [], captures := [], client := none }
  journal := ⟨⟨[], [], ""⟩, [], ()⟩

/-- What is seen if all call the rest once, if one calls it twice, and if one does not call it. -/
theorem Chain.runs_nested_logged :
    (∃ seen, Seen [(AccessLog.standard .text).planned, elsewhere] answering asked seen
      ∧ ∃ request, seen = [.entered 0, .entered 1, .handled request, .left 1, .left 0])
    ∧ (∃ seen, Seen [elsewhere, retrying] answering asked seen
      ∧ (seen.filterMap Sight.handled?).length = 2)
    ∧ ∃ seen, Seen [retrying, (AccessLog.standard .json).planned, refusing] answering asked seen
      ∧ seen.filterMap Sight.handled? = [] := by
  have hnested := fun ms => (Chain.runs_nested (ω := Unit) [] []).2.2.2 ms answering asked
  refine ⟨?_, ?_, ?_⟩
  · obtain ⟨seen, hseen, -, -, honce⟩ := hnested [(AccessLog.standard .text).planned, elsewhere]
    have hcalls : ∀ m ∈ [(AccessLog.standard .text).planned, elsewhere], ∀ next outer,
        (m.calls next outer).length = 1 := by
      simp only [List.mem_cons, List.not_mem_nil, or_false, forall_eq_or_imp, forall_eq]
      exact ⟨AccessLog.length_calls _, fun _ _ => rfl⟩
    exact ⟨seen, hseen, honce fun before m rest hsplit inner _ =>
      hcalls m (hsplit ▸ List.mem_append_right _ List.mem_cons_self) _ inner⟩
  · obtain ⟨seen, hseen, hhandled, -⟩ := hnested [elsewhere, retrying]
    exact ⟨seen, hseen, hhandled.length_eq⟩
  · obtain ⟨seen, hseen, -, hnever, -⟩ :=
      hnested [retrying, (AccessLog.standard .json).planned, refusing]
    exact ⟨seen, hseen, hnever [_, _] refusing [] rfl fun _ _ => rfl⟩

end HttpKit
