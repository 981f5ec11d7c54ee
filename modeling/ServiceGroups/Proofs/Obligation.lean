import ServiceGroups.Proofs.Sequence

/-!
# What programs do whatever the answers

A program is a tree over the answers to its calls, and two kinds of facts can be read off
the tree before anything runs: the program makes no calls of the store but those of a
kind, and it cannot end, other than in an expected way, before a call has had a certain
answer.
-/

namespace ServiceGroups

variable {α β σ ε : Type}

namespace Program

/-- Whatever the answers, all calls of the store that the program makes are allowed. -/
def Only (allowed : StoreCall → Prop) : Program α → Prop
  | .done _ => True
  | .step (.store call) next => allowed call ∧ ∀ answer, (next answer).Only allowed
  | .step (.jobs _) next => ∀ answer, (next answer).Only allowed

/-- Whatever the answers, one of the calls of the store is answered as it is the goal, or
the program ends in an expected way. -/
def Meets (goal : (call : StoreCall) → Except Failure call.Reply → Prop) (expected : α → Prop) :
    Program α → Prop
  | .done result => expected result
  | .step (.store call) next =>
    ∀ answer, ¬ goal call answer → (next answer).Meets goal expected
  | .step (.jobs _) next => ∀ answer, (next answer).Meets goal expected

variable {allowed : StoreCall → Prop} {goal : (call : StoreCall) → Except Failure call.Reply → Prop}
variable {program : Program α} {next : α → Program β}

theorem Only.mono {more : StoreCall → Prop} (only : program.Only allowed)
    (weaker : ∀ call, allowed call → more call) : program.Only more := by
  induction program with
  | done => trivial
  | step call after ih =>
      cases call with
      | store call => exact ⟨weaker call only.1, fun answer => ih answer (only.2 answer)⟩
      | jobs call => exact fun answer => ih answer (only answer)

theorem only_of_forall (all : ∀ call, allowed call) (program : Program α) :
    program.Only allowed := by
  induction program with
  | done => trivial
  | step call after ih =>
      cases call with
      | store call => exact ⟨all call, ih⟩
      | jobs call => exact ih

theorem Only.bind (only : program.Only allowed) (rest : ∀ result, (next result).Only allowed) :
    (program.bind next).Only allowed := by
  induction program with
  | done result => exact rest result
  | step call after ih =>
      cases call with
      | store call => exact ⟨only.1, fun answer => ih answer (only.2 answer)⟩
      | jobs call => exact fun answer => ih answer (only answer)

theorem Meets.bind {expected : β → Prop}
    (meets : program.Meets goal fun result => (next result).Meets goal expected) :
    (program.bind next).Meets goal expected := by
  induction program with
  | done result => exact meets
  | step call after ih =>
      cases call with
      | store call => exact fun answer missed => ih answer (meets answer missed)
      | jobs call => exact fun answer => ih answer (meets answer)

theorem meets_of_forall {expected : α → Prop} (all : ∀ result, expected result)
    (program : Program α) : program.Meets goal expected := by
  induction program with
  | done result => exact all result
  | step call after ih =>
      cases call with
      | store call => exact fun answer _ => ih answer
      | jobs call => exact fun answer => ih answer

end Program

namespace Action

variable {allowed : StoreCall → Prop} {goal : (call : StoreCall) → Except Failure call.Reply → Prop}

/-- Whatever the answers, all calls of the store that the action makes are allowed. -/
structure Only (allowed : StoreCall → Prop) (action : Action ε α) : Prop where
  run : (ExceptT.run action).Only allowed

/-- Whatever the answers, the action meets the goal or ends in an expected way. -/
structure Meets (goal : (call : StoreCall) → Except Failure call.Reply → Prop)
    (expected : Except ε α → Prop) (action : Action ε α) : Prop where
  run : (ExceptT.run action).Meets goal expected

variable {action : Action ε α} {next : α → Action ε β}

theorem Only.mono {more : StoreCall → Prop} (only : action.Only allowed)
    (weaker : ∀ call, allowed call → more call) : action.Only more :=
  ⟨only.run.mono weaker⟩

theorem Only.bind (only : action.Only allowed) (rest : ∀ value, Only allowed (next value)) :
    Only allowed (action >>= next) := by
  constructor
  rw [ExceptT.run_bind]
  refine Program.Only.bind only.run fun result => ?_
  cases result with
  | ok value => exact (rest value).run
  | error failure => trivial

theorem Only.done (result : Except ε α) : Only allowed (ExceptT.mk (.done result)) :=
  ⟨trivial⟩

theorem Only.require (failure : ε) (found : Option α) : Only allowed (require failure found) := by
  cases found <;> exact .done _

theorem Only.askStore {call : StoreCall} (allows : allowed call) :
    Only allowed (ServiceGroups.askStore call) :=
  ⟨allows, fun _ => trivial⟩

theorem Only.mapFailure {ε' : Type} (change : ε → ε') (only : action.Only allowed) :
    Only allowed (action.mapFailure change) :=
  ⟨Program.Only.bind only.run fun _ => trivial⟩

theorem Only.step (name : String) (call : JobsCall) :
    Only allowed (Orchestrator.step name call) :=
  ⟨fun _ => trivial⟩

theorem Only.follow (stages : List Stage) : Only allowed (Orchestrator.follow stages) := by
  induction stages with
  | nil => exact .done _
  | cons stage rest ih => exact (Only.step stage.name stage.call).bind fun _ => ih

/-- Whatever comes first, the goal can be left to what follows if failures are expected. -/
theorem Meets.bind {expected : Except ε β → Prop} (failing : ∀ failure, expected (.error failure))
    (rest : ∀ value, Meets goal expected (next value)) : Meets goal expected (action >>= next) := by
  constructor
  rw [ExceptT.run_bind]
  refine Program.Meets.bind (Program.meets_of_forall (fun result => ?_) _)
  cases result with
  | ok value => exact (rest value).run
  | error failure => exact failing failure

end Action

end ServiceGroups
