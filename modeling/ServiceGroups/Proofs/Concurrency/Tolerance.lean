import Mathlib.Data.List.Infix
import ServiceGroups.Proofs.Concurrency.Walk

/-!
# Walks that tolerate each other

Calls of the scheduler that change different jobs can be made in either order.  A read of
one walk is not disturbed by the other walk if it has the same answer after the other's
last call; if it is disturbed, the rest of its walk may still commute with the other walk.
Two walks of which this is true are serial, whatever turns their programs take.
-/

namespace ServiceGroups

/-- The job that a call changes. -/
def JobsCall.job? : JobsCall → Option String
  | .register job => some job.id
  | .deregister id _ => some id
  | _ => none

/-- What a call enters for the job that it changes. -/
def JobsCall.entered : JobsCall → Option Job.Spec
  | .register job => some job
  | _ => none

/-- No job is changed by both calls. -/
def JobsCall.Apart (call other : JobsCall) : Prop :=
  ∀ id, call.job? = some id → other.job? ≠ some id

namespace Ledger

variable {jobs : Ledger} {call other : JobsCall}

theorem find?_after (jobs : Ledger) (call : JobsCall) (id : String) :
    (jobs.after call).find? id =
      if call.job? = some id then call.entered else jobs.find? id := by
  cases call with
  | parse | validate | force => rfl
  | register job =>
      refine (Table.find?_put jobs _ _ _).trans ?_
      simp [JobsCall.job?, JobsCall.entered, eq_comm]
  | deregister name purge =>
      refine (Table.find?_erase jobs _ _).trans ?_
      simp [JobsCall.job?, JobsCall.entered, eq_comm]

theorem after_comm (apart : call.Apart other) :
    (jobs.after call).after other ≈ (jobs.after other).after call := by
  intro id
  rw [find?_after, find?_after, find?_after, find?_after]
  by_cases changed : call.job? = some id
  · rw [if_pos changed, if_pos changed, if_neg (apart id changed)]
  · rw [if_neg changed, if_neg changed]

theorem afterAll_after (calls : List JobsCall) (apart : ∀ other ∈ calls, call.Apart other) :
    (jobs.after call).afterAll calls ≈ (jobs.afterAll calls).after call := by
  induction calls generalizing jobs with
  | nil => exact Setoid.refl _
  | cons other rest ih =>
      obtain ⟨here, later⟩ := List.forall_mem_cons.mp apart
      exact Setoid.trans (afterAll_congr rest (after_comm here)) (ih later)

theorem afterAll_comm (calls more : List JobsCall)
    (apart : ∀ call ∈ calls, ∀ other ∈ more, call.Apart other) :
    (jobs.afterAll calls).afterAll more ≈ (jobs.afterAll more).afterAll calls := by
  induction calls generalizing jobs with
  | nil => exact Setoid.refl _
  | cons call rest ih =>
      obtain ⟨here, later⟩ := List.forall_mem_cons.mp apart
      exact Setoid.trans (ih later) (afterAll_congr rest (afterAll_after more here))

end Ledger

/-- A run does not tell ledgers apart that find the same. -/
theorem Program.run_congr {α : Type} (program : Program α) (store : Store) {jobs others : Ledger}
    (same : jobs ≈ others) :
    let outcome := program.run Ledger.scheduler store jobs
    let other := program.run Ledger.scheduler store others
    outcome.result = other.result ∧ outcome.store = other.store ∧
      outcome.state ≈ other.state := by
  induction program generalizing store jobs others with
  | done result => exact ⟨rfl, rfl, same⟩
  | step call next ih =>
      cases call with
      | store call => exact ih _ _ same
      | jobs call =>
          simp only [Program.run, Ledger.answer_eq]
          exact ih _ store (Ledger.after_congr call same)

variable {α : Type}

/-- The calls and the ending of one walk commute with those of another. -/
structure Commutes (store : Store) (calls : List Call) (ending : Ending α) (more : List Call)
    (last : Ending α) : Prop where
  answers : store.Answers (last.left store) calls
  moreAnswers : store.Answers (ending.left store) more
  result : ending.result (last.left store) = ending.result store
  lastResult : last.result (ending.left store) = last.result store
  left : ending.left (last.left store) = last.left (ending.left store)

/-- The reads among the calls are not disturbed by the other walk, or what follows a
disturbed one commutes with the other walk. -/
def Tolerates (store : Store) (calls : List Call) (ending : Ending α) (more : List Call)
    (last : Ending α) : Prop :=
  ∀ call rest, Call.store call :: rest <:+ calls →
    (last.left store).perform call = ((store.perform call).1, last.left store) ∨
      Commutes store rest ending more last

/-- The walks change different jobs and tolerate each other. -/
structure Compatible (store : Store) (calls : List Call) (ending : Ending α) (more : List Call)
    (last : Ending α) : Prop where
  apart : ∀ call ∈ jobsCalls calls, ∀ other ∈ jobsCalls more, call.Apart other
  first : Tolerates store calls ending more last
  second : Tolerates store more last calls ending

theorem JobsCall.Apart.symm {call other : JobsCall} (apart : call.Apart other) :
    other.Apart call :=
  fun id changed same => apart id same changed

namespace Commutes

variable {store : Store} {calls more fewer : List Call} {ending last : Ending α}

theorem mono (commutes : Commutes store calls ending more last) (among : fewer ⊆ more) :
    Commutes store calls ending fewer last :=
  { commutes with moreAnswers := commutes.moreAnswers.mono among }

/-- Programs with walks that commute can be run in either order. -/
theorem alike (commutes : Commutes store calls ending more last) {first second : Program α}
    (firstWalks : first.Walks store calls ending) (secondWalks : second.Walks store more last)
    (apart : ∀ call ∈ jobsCalls calls, ∀ other ∈ jobsCalls more, call.Apart other)
    (jobs : Ledger) :
    (second.before Ledger.scheduler first store jobs).swap.Alike
      (first.before Ledger.scheduler second store jobs) := by
  have former := firstWalks.run firstWalks.answers jobs
  have latter := secondWalks.run secondWalks.answers jobs
  have firstAfter := firstWalks.run commutes.answers (jobs.afterAll (jobsCalls more))
  have secondAfter := secondWalks.run commutes.moreAnswers (jobs.afterAll (jobsCalls calls))
  constructor
  · simp only [Program.before, Joint.swap, former, latter, firstAfter]
    exact commutes.result
  · simp only [Program.before, Joint.swap, former, latter, secondAfter]
    exact commutes.lastResult.symm
  · simp only [Program.before, Joint.swap, former, latter, firstAfter, secondAfter]
    exact commutes.left
  · simp only [Program.before, Joint.swap, former, latter, firstAfter, secondAfter]
    exact Setoid.symm (Ledger.afterAll_comm _ _ apart)

end Commutes

theorem Tolerates.suffix {store : Store} {calls more fewer : List Call} {ending last : Ending α}
    (tolerates : Tolerates store calls ending more last) (shorter : fewer <:+ calls) :
    Tolerates store fewer ending more last :=
  fun call rest among => tolerates call rest (among.trans shorter)

theorem Tolerates.mono {store : Store} {calls more fewer : List Call} {ending last : Ending α}
    (tolerates : Tolerates store calls ending more last) (among : fewer ⊆ more) :
    Tolerates store calls ending fewer last :=
  fun call rest inside => (tolerates call rest inside).imp_right fun commutes =>
    commutes.mono among

namespace Compatible

variable {store : Store} {calls more fewer : List Call} {ending last : Ending α}

theorem symm (compatible : Compatible store calls ending more last) :
    Compatible store more last calls ending where
  apart call member other within := (compatible.apart other within call member).symm
  first := compatible.second
  second := compatible.first

/-- What is left of a walk is as compatible as the walk. -/
theorem suffix (compatible : Compatible store calls ending more last)
    (shorter : fewer <:+ calls) : Compatible store fewer ending more last where
  apart call member := compatible.apart call (by
    obtain ⟨before, rfl⟩ := shorter
    simp only [jobsCalls, List.filterMap_append, List.mem_append]
    exact .inr member)
  first := compatible.first.suffix shorter
  second := compatible.second.mono shorter.subset

end Compatible

/-- Programs under way on compatible walks. -/
def OnCompatibleWalks (store : Store) (first second : Program α) (_ : Ledger) : Prop :=
  ∃ calls ending more last, first.Walks store calls ending ∧ second.Walks store more last ∧
    Compatible store calls ending more last

theorem OnCompatibleWalks.symm {store : Store} {first second : Program α} {jobs : Ledger}
    (given : OnCompatibleWalks store first second jobs) :
    OnCompatibleWalks store second first jobs := by
  obtain ⟨calls, ending, more, last, firstWalks, secondWalks, compatible⟩ := given
  exact ⟨more, last, calls, ending, secondWalks, firstWalks, compatible.symm⟩

section Steps

variable {store : Store} {second : Program α} {more : List Call} {last : Ending α}
  (walks : second.Walks store more last) (jobs : Ledger)

include walks

/-- A read that is not disturbed can be made before or after the other program. -/
theorem before_of_undisturbed {call : StoreCall} (next : Except Failure call.Reply → Program α)
    (undisturbed : (last.left store).perform call = ((store.perform call).1, last.left store)) :
    second.before Ledger.scheduler (next (store.perform call).1) store jobs =
      second.before Ledger.scheduler (.step (.store call) next) store jobs := by
  have former := walks.run walks.answers jobs
  simp only [Program.before, former, Program.run, undisturbed]

/-- A call of the scheduler that is apart from those of the other program can be made
before or after it. -/
theorem before_of_apart {call : JobsCall} (next : Except Failure call.Reply → Program α)
    (apart : ∀ other ∈ jobsCalls more, call.Apart other) :
    (second.before Ledger.scheduler (next (.ok (Ledger.reply call))) store
      (jobs.after call)).Alike
        (second.before Ledger.scheduler (.step (.jobs call) next) store jobs) := by
  have former := walks.run walks.answers jobs
  have latter := walks.run walks.answers (jobs.after call)
  obtain ⟨result, left, state⟩ := Program.run_congr (next (.ok (Ledger.reply call)))
    (last.left store) (Ledger.afterAll_after (jobsCalls more) apart)
  constructor <;> simp only [Program.before, former, latter, Program.run, Ledger.answer_eq]
  · exact result
  · exact left
  · exact state

end Steps

theorem OnCompatibleWalks.yields {store : Store} {first second : Program α} {jobs : Ledger}
    (given : OnCompatibleWalks store first second jobs) :
    Program.Yields Ledger.scheduler (OnCompatibleWalks store) store jobs first second := by
  obtain ⟨calls, ending, more, last, firstWalks, secondWalks, compatible⟩ := given
  cases firstWalks with
  | settles result => exact .last result rfl
  | writes call respond => exact .last _ rfl
  | @reads call next calls ending kept rest =>
      have later := compatible.suffix (List.suffix_cons _ calls)
      refine .goesOn kept ⟨calls, ending, more, last, rest, secondWalks, later⟩ ?_
      rcases compatible.first call calls (List.suffix_refl _) with undisturbed | commutes
      · have same := before_of_undisturbed secondWalks jobs next undisturbed
        rw [Program.advance, same]
        exact .inr (Joint.Alike.refl _)
      · -- The rest of the program can be run before the other program as well.
        have either := commutes.alike rest secondWalks later.apart jobs
        have same := Program.before_advance Ledger.scheduler (.step (.store call) next) second
          store jobs
        simp only [Program.advance, kept] at same ⊢
        rw [same] at either
        exact .inl either
  | @asks call next calls ending rest =>
      have later := compatible.suffix (List.suffix_cons _ calls)
      have apart := compatible.apart call List.mem_cons_self
      have either := before_of_apart secondWalks jobs next apart
      refine .goesOn rfl ⟨calls, ending, more, last, ?_, secondWalks, later⟩ (.inr ?_)
      · rw [Program.advance, Ledger.answer_eq]
        exact rest
      · rw [Program.advance, Ledger.answer_eq]
        exact either.swap

/-- Programs on compatible walks are serial, whatever turns they take. -/
theorem Compatible.interleave_serial {store : Store} {first second : Program α}
    {calls more : List Call} {ending last : Ending α}
    (compatible : Compatible store calls ending more last)
    (firstWalks : first.Walks store calls ending) (secondWalks : second.Walks store more last)
    (turns : List Turn) (jobs : Ledger) :
    first.Serial Ledger.scheduler second store jobs
      (Program.interleave Ledger.scheduler turns first second store jobs) :=
  Program.interleave_serial (OnCompatibleWalks store) OnCompatibleWalks.symm
    OnCompatibleWalks.yields turns
    ⟨calls, ending, more, last, firstWalks, secondWalks, compatible⟩

end ServiceGroups
