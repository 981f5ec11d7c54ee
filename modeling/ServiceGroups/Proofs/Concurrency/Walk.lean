import ServiceGroups.Proofs.Concurrency.Interleaving
import ServiceGroups.Proofs.Ledger

/-!
# Walks

On a store at rest and a ledger, a program makes fixed calls up to its last.  The
ledger's replies do not depend on what is in it, so the calls are known beforehand.  They
read the store and change the ledger; then the program settles on a result, or makes one
more call of the store and ends with its answer.  On another store the program walks the
same way if the other store gives the same answers.
-/

namespace ServiceGroups

namespace Table

variable {κ ν : Type} [DecidableEq κ]

/-- Tables cannot be told apart if they find the same. -/
instance : Setoid (Table κ ν) where
  r first second := ∀ key, first.find? key = second.find? key
  iseqv := ⟨fun _ _ => rfl, fun same key => (same key).symm,
    fun one other key => (one key).trans (other key)⟩

end Table

namespace Ledger

/-- What is given back for a call, whatever is in the ledger. -/
def reply : (call : JobsCall) → call.Reply
  | .parse text => job text
  | .validate _ => ()
  | .register _ => ⟨""⟩
  | .deregister _ _ => ⟨""⟩
  | .force _ => ⟨""⟩

/-- The ledger after a call. -/
def after (jobs : Ledger) (call : JobsCall) : Ledger :=
  (scheduler.answer call jobs).2

/-- The ledger after calls, made one after another. -/
def afterAll (jobs : Ledger) (calls : List JobsCall) : Ledger :=
  calls.foldl after jobs

theorem answer_eq (call : JobsCall) (jobs : Ledger) :
    scheduler.answer call jobs = (.ok (reply call), jobs.after call) := by
  cases call <;> rfl

variable {jobs others : Ledger}

theorem after_congr (call : JobsCall) (same : jobs ≈ others) :
    jobs.after call ≈ others.after call := by
  intro id
  cases call with
  | parse | validate | force => exact same id
  | register job =>
      change (jobs.put job.id job).find? id = (others.put job.id job).find? id
      rw [Table.find?_put, Table.find?_put, same id]
  | deregister name purge =>
      change (jobs.erase name).find? id = (others.erase name).find? id
      rw [Table.find?_erase, Table.find?_erase, same id]

theorem afterAll_congr (calls : List JobsCall) (same : jobs ≈ others) :
    jobs.afterAll calls ≈ others.afterAll calls := by
  induction calls generalizing jobs others with
  | nil => exact same
  | cons call rest ih => exact ih (after_congr call same)

end Ledger

/-- How a program ends: with a result, or with one more call of the store. -/
inductive Ending (α : Type) where
  | settles (result : α)
  | writes (call : StoreCall) (respond : Except Failure call.Reply → α)

namespace Ending

variable {α β : Type}

/-- The result of the ending on a store. -/
def result (store : Store) : Ending α → α
  | settles result => result
  | writes call respond => respond (store.perform call).1

/-- The store that the ending leaves. -/
def left (store : Store) : Ending α → Store
  | settles _ => store
  | writes call _ => (store.perform call).2

def map (change : α → β) : Ending α → Ending β
  | settles result => settles (change result)
  | writes call respond => writes call fun answer => change (respond answer)

end Ending

/-- The call of the scheduler that a call is. -/
def Call.jobs? : Call → Option JobsCall
  | .store _ => none
  | .jobs call => some call

/-- The calls of the scheduler among calls. -/
def jobsCalls (calls : List Call) : List JobsCall :=
  calls.filterMap Call.jobs?

@[simp]
theorem jobsCalls_nil : jobsCalls [] = [] :=
  rfl

@[simp]
theorem jobsCalls_store (call : StoreCall) (calls : List Call) :
    jobsCalls (.store call :: calls) = jobsCalls calls :=
  rfl

@[simp]
theorem jobsCalls_jobs (call : JobsCall) (calls : List Call) :
    jobsCalls (.jobs call :: calls) = call :: jobsCalls calls :=
  rfl

namespace Program

variable {α β : Type}

/-- The program makes the calls and then ends, as long as the store is as it is. -/
inductive Walks (store : Store) : Program α → List Call → Ending α → Prop where
  | settles (result : α) : Walks store (.done result) [] (.settles result)
  | writes (call : StoreCall) (respond : Except Failure call.Reply → α) :
      Walks store (.step (.store call) fun answer => .done (respond answer)) []
        (.writes call respond)
  | reads {call : StoreCall} {next : Except Failure call.Reply → Program α}
      {calls : List Call} {ending : Ending α}
      (kept : (store.perform call).2 = store)
      (rest : Walks store (next (store.perform call).1) calls ending) :
      Walks store (.step (.store call) next) (.store call :: calls) ending
  | asks {call : JobsCall} {next : Except Failure call.Reply → Program α}
      {calls : List Call} {ending : Ending α}
      (rest : Walks store (next (.ok (Ledger.reply call))) calls ending) :
      Walks store (.step (.jobs call) next) (.jobs call :: calls) ending

end Program

/-- The other store answers the reads among the calls as the store does, and stays as it
is. -/
def Store.Answers (store other : Store) (calls : List Call) : Prop :=
  ∀ call, Call.store call ∈ calls → other.perform call = ((store.perform call).1, other)

theorem Store.Answers.mono {store other : Store} {calls more : List Call}
    (answers : store.Answers other more) (among : calls ⊆ more) : store.Answers other calls :=
  fun call member => answers call (among member)

namespace Program.Walks

variable {α β : Type} {store other : Store} {program : Program α} {calls : List Call}
  {ending : Ending α}

/-- A run on a store with the same answers makes the same calls and ends the same way. -/
theorem run (walks : program.Walks store calls ending) (answers : store.Answers other calls)
    (jobs : Ledger) :
    program.run Ledger.scheduler other jobs =
      ⟨ending.result other, ending.left other, jobs.afterAll (jobsCalls calls),
        jobsCalls calls⟩ := by
  induction walks generalizing jobs with
  | settles result => rfl
  | writes call respond => rfl
  | reads kept rest ih =>
      have answer := answers _ List.mem_cons_self
      have others := answers.mono (List.subset_cons_self _ _)
      rw [Program.run, answer]
      exact ih others jobs
  | asks rest ih =>
      have others := answers.mono (List.subset_cons_self _ _)
      rw [Program.run, Ledger.answer_eq]
      simp only [ih others]
      rfl

/-- The calls of a walk leave the store as it is. -/
theorem answers (walks : program.Walks store calls ending) : store.Answers store calls := by
  induction walks with
  | settles result => exact fun call member => nomatch member
  | writes call respond => exact fun call member => nomatch member
  | reads kept rest ih =>
      intro call member
      rcases List.mem_cons.mp member with same | later
      · cases same
        exact Prod.ext rfl kept
      · exact ih call later
  | asks rest ih =>
      intro call member
      rcases List.mem_cons.mp member with same | later
      · cases same
      · exact ih call later

theorem bind {next : α → Program β} {result : α} {more : List Call} {last : Ending β}
    (first : program.Walks store calls (.settles result))
    (rest : (next result).Walks store more last) :
    (program.bind next).Walks store (calls ++ more) last := by
  generalize settled : Ending.settles result = ending at first
  induction first with
  | settles value =>
      cases settled
      exact rest
  | writes call respond => cases settled
  | reads kept _ ih => exact .reads kept (ih settled)
  | asks _ ih => exact .asks (ih settled)

theorem map (walks : program.Walks store calls ending) (change : α → β) :
    (program.bind fun result => .done (change result)).Walks store calls
      (ending.map change) := by
  induction walks with
  | settles result => exact .settles _
  | writes call respond => exact .writes call _
  | reads kept _ ih => exact .reads kept ih
  | asks _ ih => exact .asks ih

end Program.Walks

namespace Action

variable {α β ε ε' : Type}

/-- The walk of an action. -/
def Walks (store : Store) (action : Action ε α) (calls : List Call)
    (ending : Ending (Except ε α)) : Prop :=
  (ExceptT.run action).Walks store calls ending

namespace Walks

variable {store : Store} {action : Action ε α} {calls more : List Call}

theorem bind_ok {next : α → Action ε β} {value : α} {last : Ending (Except ε β)}
    (first : action.Walks store calls (.settles (.ok value)))
    (rest : (next value).Walks store more last) :
    (action >>= next).Walks store (calls ++ more) last := by
  unfold Action.Walks at *
  rw [ExceptT.run_bind]
  exact Program.Walks.bind first rest

theorem bind_error {next : α → Action ε β} {failure : ε}
    (first : action.Walks store calls (.settles (.error failure))) :
    (action >>= next).Walks store calls (.settles (.error failure)) := by
  unfold Action.Walks at *
  rw [ExceptT.run_bind, ← List.append_nil calls]
  exact Program.Walks.bind first (.settles _)

theorem mapFailure {ending : Ending (Except ε α)} (walks : action.Walks store calls ending)
    (change : ε → ε') :
    (action.mapFailure change).Walks store calls (ending.map (Except.mapError change)) :=
  Program.Walks.map walks (Except.mapError change)

end Walks

variable {store : Store}

theorem walks_pure (value : α) :
    (pure value : Action ε α).Walks store [] (.settles (.ok value)) :=
  .settles _

theorem walks_throw (failure : ε) :
    (throw failure : Action ε α).Walks store [] (.settles (.error failure)) :=
  .settles _

theorem walks_require (failure : ε) (found : Option α) :
    (require failure found).Walks store []
      (.settles (found.elim (.error failure) Except.ok)) := by
  cases found <;> exact .settles _

theorem walks_askStore (store : Store) (call : StoreCall) (kept : (store.perform call).2 = store) :
    (askStore call).Walks store [.store call] (.settles (store.perform call).1) :=
  .reads kept (.settles _)

theorem walks_askJobs (call : JobsCall) :
    (askJobs call).Walks store [.jobs call] (.settles (.ok (Ledger.reply call))) :=
  .asks (.settles _)

end Action

end ServiceGroups
