import ServiceGroups.Orchestrator
import ServiceGroups.Proofs.Running

/-!
# The sequences of scheduler calls

Creating, changing and deleting a group make fixed sequences of scheduler calls.
A sequence is a list of stages, and following it makes the calls in order up to
and including the first that fails.  How a sequence ends is a relation between
the stages, the result and the calls made, so that nothing else has to look at
the calls one by one.
-/

namespace ServiceGroups

/-- A call of the scheduler as a named step of a sequence. -/
structure Stage where
  name : String
  call : JobsCall

namespace Scheduler

variable {σ : Type}

/-- The scheduler grants every call of a list, made one after another. -/
inductive Grants (scheduler : Scheduler σ) : List JobsCall → σ → σ → Prop where
  | nil (state : σ) : Grants scheduler [] state state
  | cons {call : JobsCall} {rest : List JobsCall} {state next final : σ} {reply : call.Reply}
      (granted : scheduler.answer call state = (.ok reply, next))
      (others : Grants scheduler rest next final) :
      Grants scheduler (call :: rest) state final

/-- How stages end that are followed from a state: either every call is granted,
or the calls before one stage are granted and that stage is refused, and then it
is the last one made and gives its name to the failure. -/
inductive Follows (scheduler : Scheduler σ) (stages : List Stage) (state : σ) :
    Except Failure Unit → σ → List JobsCall → Prop where
  | granted {final : σ}
      (grants : scheduler.Grants (stages.map Stage.call) state final) :
      Follows scheduler stages state (.ok ()) final (stages.map Stage.call)
  | refused {before later : List Stage} {stage : Stage} {reason : Failure} {middle final : σ}
      (split : stages = before ++ stage :: later)
      (grants : scheduler.Grants (before.map Stage.call) state middle)
      (refusal : scheduler.answer stage.call middle = (.error reason, final)) :
      Follows scheduler stages state (.error (.orchestrator stage.name reason)) final
        ((before ++ [stage]).map Stage.call)

theorem Follows.cons {scheduler : Scheduler σ} {stages : List Stage} {stage : Stage}
    {state next final : σ} {reply : stage.call.Reply} {result : Except Failure Unit}
    {calls : List JobsCall}
    (granted : scheduler.answer stage.call state = (.ok reply, next))
    (follows : scheduler.Follows stages next result final calls) :
    scheduler.Follows (stage :: stages) state result final (stage.call :: calls) := by
  cases follows with
  | granted grants => exact .granted (.cons granted grants)
  | @refused before later last reason middle _ split grants refusal =>
      have longer : stage :: stages = (stage :: before) ++ last :: later := by
        rw [split, List.cons_append]
      exact .refused longer (.cons granted grants) refusal

/-- A call that the scheduler refuses after others is not granted after them. -/
theorem Grants.not_append_of_refused {scheduler : Scheduler σ} {calls rest : List JobsCall}
    {call : JobsCall} {state middle next final : σ} {reason : Failure}
    (grants : scheduler.Grants calls state middle)
    (refusal : scheduler.answer call middle = (.error reason, next)) :
    ¬ scheduler.Grants (calls ++ call :: rest) state final := by
  induction grants with
  | nil =>
      rintro (_ | ⟨granted, -⟩)
      rw [refusal] at granted
      cases granted
  | cons granted others ih =>
      rintro (_ | ⟨grantedToo, more⟩)
      rw [granted] at grantedToo
      cases grantedToo
      exact ih refusal more

/-- Stages fail only if the scheduler refuses one of the calls made. -/
theorem Follows.eq_ok_of_grants {scheduler : Scheduler σ} {stages : List Stage}
    {state final other : σ} {result : Except Failure Unit} {calls : List JobsCall}
    (follows : scheduler.Follows stages state result final calls)
    (granted : scheduler.Grants calls state other) : result = .ok () := by
  cases follows with
  | granted => rfl
  | @refused before later stage reason middle _ split grants refusal =>
      rw [List.map_append] at granted
      exact absurd granted (grants.not_append_of_refused refusal)

end Scheduler

namespace Orchestrator

variable {σ : Type} (scheduler : Scheduler σ) (store : Store) (state : σ)

/-- Make the calls of stages in order. -/
def follow : List Stage → Action Failure Unit
  | [] => pure ()
  | stage :: rest => do
    let _ ← step stage.name stage.call
    follow rest

theorem outcome_step (name : String) (call : JobsCall) :
    Action.outcome scheduler store state (step name call) =
      ⟨(scheduler.answer call state).1.mapError (.orchestrator name), store,
        (scheduler.answer call state).2, [call]⟩ := by
  simp [step, Action.outcome_mapFailure, Action.outcome_askJobs]

/-- Following stages leaves the store alone and makes calls up to and including
the first that fails. -/
theorem outcome_follow (stages : List Stage) :
    ∃ result final calls,
      Action.outcome scheduler store state (follow stages) = ⟨result, store, final, calls⟩ ∧
        scheduler.Follows stages state result final calls := by
  -- A granted call leaves the rest to be followed from another state.
  induction stages generalizing state with
  | nil => exact ⟨.ok (), state, [], rfl, .granted (.nil state)⟩
  | cons stage rest ih =>
      rw [follow, Action.outcome_bind, outcome_step]
      rcases answered : scheduler.answer stage.call state with ⟨reply | reply, next⟩
      · refine ⟨_, next, [stage.call], rfl, ?_⟩
        have split : stage :: rest = [] ++ stage :: rest := rfl
        exact .refused split (.nil state) answered
      · obtain ⟨result, final, calls, run, follows⟩ := ih next
        refine ⟨result, final, stage.call :: calls, ?_, follows.cons answered⟩
        simp [Except.mapError, run]

end Orchestrator

end ServiceGroups
