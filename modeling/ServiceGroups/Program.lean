import ServiceGroups.Job.Spec
import ServiceGroups.Store.Basic

/-!
# Programs

What the service does for a request is a program: a sequence of calls, each to
the store or to the job scheduler, where what comes next may depend on the
answers so far.  A program is data.  Running it against a store and a scheduler
gives its result, the store it leaves, and the calls it made of the scheduler;
other interpreters may interleave the calls of several programs.
-/

namespace ServiceGroups

/-- What can be asked of the job scheduler. -/
inductive JobsCall where
  /-- Turn a job text into the canonical form. -/
  | parse (text : String)
  | validate (job : Job.Spec)
  | register (job : Job.Spec)
  | deregister (id : String) (purge : Bool)
  /-- Start one run of a periodic job outside its schedule. -/
  | force (id : String)

/-- What the scheduler gives back when a call succeeds. -/
abbrev JobsCall.Reply : JobsCall → Type
  | .parse _ => Job.Spec
  | .validate _ => Unit
  | _ => Evaluation

/-- A call of a program. -/
inductive Call where
  | store (call : StoreCall)
  | jobs (call : JobsCall)

/-- What a call gives back when it succeeds. -/
abbrev Call.Reply : Call → Type
  | .store call => call.Reply
  | .jobs call => call.Reply

/-- A sequence of calls that ends in a result. -/
inductive Program (α : Type) : Type where
  | done (result : α)
  | step (call : Call) (next : Except Failure call.Reply → Program α)

namespace Program

/-- Go on with the result of a program. -/
def bind {α β : Type} : Program α → (α → Program β) → Program β
  | .done result, next => next result
  | .step call after, next => .step call fun answer => (after answer).bind next

instance : Monad Program where
  pure := .done
  bind := Program.bind

@[simp]
theorem pure_eq {α : Type} (result : α) : (pure result : Program α) = .done result :=
  rfl

@[simp]
theorem done_bind {α β : Type} (result : α) (next : α → Program β) :
    (Program.done result >>= next) = next result :=
  rfl

@[simp]
theorem step_bind {α β : Type} (call : Call) (after : Except Failure call.Reply → Program α)
    (next : α → Program β) :
    (Program.step call after >>= next) = .step call fun answer => after answer >>= next :=
  rfl

theorem bind_done {α : Type} (program : Program α) : program.bind .done = program := by
  induction program with
  | done => rfl
  | step call after ih => simp [Program.bind, ih]

theorem bind_assoc {α β γ : Type} (program : Program α) (next : α → Program β)
    (last : β → Program γ) :
    (program.bind next).bind last = program.bind fun result => (next result).bind last := by
  induction program with
  | done => rfl
  | step call after ih => simp [Program.bind, ih]

end Program

/-- A program that may fail. -/
abbrev Action (ε α : Type) : Type :=
  ExceptT ε Program α

/-- Make one call and fail as it fails. -/
def ask (call : Call) : Action Failure call.Reply :=
  ExceptT.mk (.step call .done)

def askStore (call : StoreCall) : Action Failure call.Reply :=
  ask (.store call)

def askJobs (call : JobsCall) : Action Failure call.Reply :=
  ask (.jobs call)

def Action.mapFailure {ε ε' α : Type} (change : ε → ε') (action : Action ε α) :
    Action ε' α :=
  ExceptT.mk (action.run.bind fun result => .done (result.mapError change))

def Action.require {ε α : Type} (failure : ε) : Option α → Action ε α
  | some value => pure value
  | none => throw failure

/-- A scheduler with a state of its own. -/
structure Scheduler (σ : Type) where
  answer : (call : JobsCall) → σ → Except Failure call.Reply × σ

/-- What a run of a program leaves: its result, the store, the scheduler's
state, and the calls made of the scheduler, earliest first. -/
structure Outcome (α σ : Type) where
  result : α
  store : Store
  state : σ
  calls : List JobsCall

/-- Run a program against a store and a scheduler. -/
def Program.run {α σ : Type} (scheduler : Scheduler σ) (store : Store) (state : σ) :
    Program α → Outcome α σ
  | .done result => ⟨result, store, state, []⟩
  | .step (.store call) next =>
    let (answer, store) := store.perform call
    (next answer).run scheduler store state
  | .step (.jobs call) next =>
    let (answer, state) := scheduler.answer call state
    let outcome := (next answer).run scheduler store state
    { outcome with calls := call :: outcome.calls }

end ServiceGroups
