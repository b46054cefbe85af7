import HttpKit.AccessLog

/-!
# Middleware that goes by a plan

What a middleware does with a request is written down as a plan: it reads and writes the journal,
calls the rest of the way as often as it likes, each time with a request of its choice, and ends
with a reply or a fault. So the calls that it makes can be told from the plan and the rest of the
way (`Plan.calls`).

A plan may do anything that calls nothing in one go (`Plan.act`). The access log is middleware
that goes by a plan (`AccessLog.middleware_planned`) and calls the rest of the way once
(`AccessLog.length_calls`).
-/

namespace HttpKit

variable {ω α : Type}

/-! ## Runs one after the other -/

namespace Run

variable {β : Type} {first : Run ω α} {j after : Journal ω}

theorem bind_of_ok {a : α} (h : first.run.run j = (.ok a, after)) (rest : α → Run ω β) :
    (first >>= rest).run.run j = (rest a).run.run after := by
  rw [ExceptT.run_bind, StateT.run_bind, h]
  rfl

theorem bind_of_error {fault : Fault} (h : first.run.run j = (.error fault, after))
    (rest : α → Run ω β) : (first >>= rest).run.run j = (.error fault, after) := by
  rw [ExceptT.run_bind, StateT.run_bind, h]
  rfl

theorem attempt_bind {outcome : Except Fault α} (h : first.run.run j = (outcome, after))
    (rest : Except Fault α → Run ω β) :
    (first.attempt >>= rest).run.run j = (rest outcome).run.run after := by
  have hok : first.attempt.run.run j = (.ok outcome, after) := by
    rw [attempt, ExceptT.run_lift, StateT.run_map, h]
    rfl
  exact bind_of_ok hok rest

end Run

/-! ## Scripts -/

/-- What a middleware does with a request, the rest of the way left open. -/
inductive Plan (ω : Type) where
  | done (outcome : Except Fault Reply)
  | read (rest : Journal ω → Plan ω)
  | write (j : Journal ω) (rest : Plan ω)
  /-- The rest of the way is called, and the plan goes on with what it ends with. -/
  | call (request : Request) (rest : Except Fault Reply → Plan ω)

/-- A call: the request, and the journal in which it arrives. -/
structure Invocation (ω : Type) where
  request : Request
  journal : Journal ω

namespace Plan

/-- Runs a plan before the rest of the way. -/
def run (next : Handler ω) : Plan ω → Run ω Reply
  | done outcome => Run.ofExcept outcome
  | read rest => do (rest (← get)).run next
  | write j rest => do
    set j
    rest.run next
  | call request rest => do (rest (← (next request).attempt)).run next

/-- The calls of the rest of the way, in order. -/
def calls (next : Handler ω) : Plan ω → Journal ω → List (Invocation ω)
  | done _, _ => []
  | read rest, j => (rest j).calls next j
  | write j rest, _ => rest.calls next j
  | call request rest, j =>
    let (outcome, after) := (next request).run.run j
    ⟨request, j⟩ :: (rest outcome).calls next after

/-- The plan that does what calls nothing, and goes on with what it gives. -/
def act (first : Run ω α) (rest : α → Plan ω) : Plan ω :=
  .read fun j =>
    match first.run.run j with
    | (.ok a, after) => .write after (rest a)
    | (.error fault, after) => .write after (.done (.error fault))

theorem run_act (first : Run ω α) (rest : α → Plan ω) (next : Handler ω) :
    (act first rest).run next = first >>= fun a => (rest a).run next := by
  funext j
  have hread : ((act first rest).run next).run.run j
      = ((match first.run.run j with
          | (.ok a, after) => Plan.write after (rest a)
          | (.error fault, after) => .write after (.done (.error fault))).run next).run.run j := rfl
  refine hread.trans ?_
  rcases hfirst : first.run.run j with ⟨fault | a, after⟩
  · exact (Run.bind_of_error hfirst _).symm
  · exact (Run.bind_of_ok hfirst fun a => (rest a).run next).symm

theorem calls_act_of_ok {first : Run ω α} {rest : α → Plan ω} {j after : Journal ω} {a : α}
    (h : first.run.run j = (.ok a, after)) (next : Handler ω) :
    (act first rest).calls next j = (rest a).calls next after := by
  rw [act, calls, h, calls]

theorem calls_act_done (first : Run ω Reply) (next : Handler ω) (j : Journal ω) :
    (act first fun reply => done (.ok reply)).calls next j = [] := by
  rw [act, calls]
  rcases first.run.run j with ⟨_ | _, _⟩ <;> rfl

end Plan

/-- A middleware that goes by a plan for every request. -/
structure Planned (ω : Type) where
  name : String
  plan : Request → Plan ω

namespace Planned

/-- As middleware. -/
def middleware (m : Planned ω) : Middleware ω where
  name := m.name
  apply request next := (m.plan request).run next

/-- The calls that it makes of the rest of the way when it is called itself. -/
def calls (m : Planned ω) (next : Handler ω) (outer : Invocation ω) : List (Invocation ω) :=
  (m.plan outer.request).calls next outer.journal

end Planned

/-! ## The access log as a plan -/

namespace AccessLog

/-- The access log by a plan: what it does before and after it calls the rest. -/
def planned (a : AccessLog) : Planned ω where
  name := "LoggingMiddleware"
  plan request :=
    .act (do return (← Run.nextId, ← Run.tick)) fun (id, started) =>
      .call request fun outcome =>
        .act (a.conclude request id started outcome) fun reply => .done (.ok reply)

/-- **The access log goes by its plan.** -/
theorem middleware_planned (a : AccessLog) :
    (a.planned : Planned ω).middleware = a.middleware := by
  have hlast : ∀ run : Run ω Reply, (run >>= fun reply => Run.ofExcept (.ok reply)) = run :=
    bind_pure
  rw [Planned.middleware, middleware]
  congr
  funext request next
  rw [planned, Plan.run_act, bind_assoc]
  simp only [Plan.run, Plan.run_act, hlast, bind_assoc, pure_bind]

/-- The access log calls the rest of the way once. -/
theorem length_calls (a : AccessLog) (next : Handler ω) (outer : Invocation ω) :
    (a.planned.calls next outer).length = 1 := by
  obtain ⟨request, ⟨ids, ticks, stamp⟩, log, state⟩ := outer
  -- There is an identifier and a reading whether the clock has more of them or not.
  obtain ⟨begun, after, hbegin⟩ : ∃ begun after,
      (do return (← Run.nextId, ← Run.tick) : Run ω (String × Float)).run.run
        ⟨⟨ids, ticks, stamp⟩, log, state⟩ = (.ok begun, after) := by
    cases ids <;> cases ticks <;> exact ⟨_, _, rfl⟩
  rw [Planned.calls, planned, Plan.calls_act_of_ok hbegin, Plan.calls]
  simp only [Plan.calls_act_done]
  rfl

end AccessLog

end HttpKit
