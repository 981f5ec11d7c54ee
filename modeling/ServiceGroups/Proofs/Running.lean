import Mathlib.Control.Basic
import ServiceGroups.Program

/-!
# Running programs

A run of a program is put together from the runs of its parts: what a part
leaves is where the next part starts, and the calls of the scheduler add up.
An action that fails ends the run at the place where it failed.  The lemmas
here let every other module run an action without opening programs.
-/

namespace ServiceGroups

instance : LawfulMonad Program :=
  LawfulMonad.mk' Program
    (fun program => Program.bind_done program)
    (fun _ _ => rfl)
    (fun program next last => Program.bind_assoc program next last)

namespace Outcome

variable {α β ε σ : Type}

/-- The same outcome after calls that were made before. -/
def after (calls : List JobsCall) (outcome : Outcome α σ) : Outcome α σ :=
  { outcome with calls := calls ++ outcome.calls }

/-- Change the result of an outcome. -/
def map (change : α → β) (outcome : Outcome α σ) : Outcome β σ :=
  ⟨change outcome.result, outcome.store, outcome.state, outcome.calls⟩

/-- Go on where an outcome ends, unless it is a failure. -/
def thenDo (outcome : Outcome (Except ε α) σ)
    (next : α → Store → σ → Outcome (Except ε β) σ) : Outcome (Except ε β) σ :=
  match outcome.result with
  | .ok value => (next value outcome.store outcome.state).after outcome.calls
  | .error failure => ⟨.error failure, outcome.store, outcome.state, outcome.calls⟩

@[simp]
theorem after_nil (outcome : Outcome α σ) : outcome.after [] = outcome :=
  rfl

@[simp]
theorem after_mk (calls more : List JobsCall) (result : α) (store : Store) (state : σ) :
    (Outcome.mk result store state more).after calls =
      ⟨result, store, state, calls ++ more⟩ :=
  rfl

@[simp]
theorem map_mk (change : α → β) (result : α) (store : Store) (state : σ)
    (calls : List JobsCall) :
    (Outcome.mk result store state calls).map change =
      ⟨change result, store, state, calls⟩ :=
  rfl

@[simp]
theorem thenDo_ok (value : α) (store : Store) (state : σ) (calls : List JobsCall)
    (next : α → Store → σ → Outcome (Except ε β) σ) :
    (Outcome.mk (.ok value) store state calls).thenDo next =
      (next value store state).after calls :=
  rfl

@[simp]
theorem thenDo_error (failure : ε) (store : Store) (state : σ) (calls : List JobsCall)
    (next : α → Store → σ → Outcome (Except ε β) σ) :
    (Outcome.mk (.error failure) store state calls).thenDo next =
      ⟨.error failure, store, state, calls⟩ :=
  rfl

end Outcome

namespace Program

variable {α β σ : Type}

theorem run_bind (program : Program α) (next : α → Program β) (scheduler : Scheduler σ)
    (store : Store) (state : σ) :
    (program.bind next).run scheduler store state =
      ((next (program.run scheduler store state).result).run scheduler
        (program.run scheduler store state).store
        (program.run scheduler store state).state).after
        (program.run scheduler store state).calls := by
  -- Each step hands its reply on to the rest, from the store and the state it leaves.
  induction program generalizing store state with
  | done result => rfl
  | step call rest ih =>
      cases call with
      | store call => exact ih _ _ _
      | jobs call =>
          simp only [Program.bind, Program.run, ih]
          rfl

theorem run_bind_done (program : Program α) (change : α → β) (scheduler : Scheduler σ)
    (store : Store) (state : σ) :
    (program.bind fun result => .done (change result)).run scheduler store state =
      (program.run scheduler store state).map change := by
  rw [run_bind]
  simp [Program.run, Outcome.after, Outcome.map]

/-- A property of stores that every call keeps is kept by every program. -/
theorem run_preserves {holds : Store → Prop}
    (kept : ∀ store call, holds store → holds (store.perform call).2) (program : Program α)
    (scheduler : Scheduler σ) (store : Store) (state : σ) (held : holds store) :
    holds (program.run scheduler store state).store := by
  induction program generalizing store state with
  | done result => exact held
  | step call next ih =>
      cases call with
      | store call => exact ih _ _ _ (kept store call held)
      | jobs call => exact ih _ _ _ held

end Program

namespace Action

variable {α β ε ε' σ : Type}

/-- What running an action leaves. -/
def outcome (scheduler : Scheduler σ) (store : Store) (state : σ) (action : Action ε α) :
    Outcome (Except ε α) σ :=
  (ExceptT.run action).run scheduler store state

variable (scheduler : Scheduler σ) (store : Store) (state : σ)

@[simp]
theorem outcome_pure (value : α) :
    outcome scheduler store state (pure value : Action ε α) = ⟨.ok value, store, state, []⟩ :=
  rfl

theorem outcome_bind (action : Action ε α) (next : α → Action ε β) :
    outcome scheduler store state (action >>= next) =
      (outcome scheduler store state action).thenDo fun value store state =>
        outcome scheduler store state (next value) := by
  unfold outcome
  rw [ExceptT.run_bind]
  change (Program.bind _ _).run scheduler store state = _
  rw [Program.run_bind]
  unfold Outcome.thenDo
  cases (Program.run scheduler store state (ExceptT.run action)).result with
  | ok value => rfl
  | error failure => simp [Program.run, Outcome.after]

theorem outcome_askStore (call : StoreCall) :
    outcome scheduler store state (askStore call) =
      ⟨(store.perform call).1, (store.perform call).2, state, []⟩ :=
  rfl

theorem outcome_askJobs (call : JobsCall) :
    outcome scheduler store state (askJobs call) =
      ⟨(scheduler.answer call state).1, store, (scheduler.answer call state).2, [call]⟩ :=
  rfl

theorem outcome_mapFailure (change : ε → ε') (action : Action ε α) :
    outcome scheduler store state (action.mapFailure change) =
      (outcome scheduler store state action).map (Except.mapError change) :=
  Program.run_bind_done _ _ _ _ _

@[simp]
theorem outcome_require_some (failure : ε) (value : α) :
    outcome scheduler store state (require failure (some value)) =
      ⟨.ok value, store, state, []⟩ :=
  rfl

@[simp]
theorem outcome_require_none (failure : ε) :
    outcome scheduler store state (require failure (none : Option α)) =
      ⟨.error failure, store, state, []⟩ :=
  rfl

end Action

end ServiceGroups
