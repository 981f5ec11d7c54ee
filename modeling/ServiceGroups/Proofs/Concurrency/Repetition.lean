import ServiceGroups.Proofs.Concurrency.Tolerance

/-!
# One change made twice

Two programs that change one row and its job in the same way disturb each other, and are
serial all the same, up to the entry of the job.  Whichever calls the scheduler last, the job
comes to an entry that is allowed.  A program that has read the row before the other wrote it ends as one that begins after the
other is done.
-/

namespace ServiceGroups

/-- Ledgers that find the same, except for entries of one job that are both allowed. -/
def Ledger.upTo (id : String) (allowed : Option Job.Spec → Prop) : Setoid Ledger where
  r jobs others := ∀ key, jobs.find? key = others.find? key ∨
    key = id ∧ allowed (jobs.find? key) ∧ allowed (others.find? key)
  iseqv := by
    refine ⟨fun _ _ => .inl rfl, fun same key => ?_, fun one other key => ?_⟩
    · exact (same key).imp Eq.symm fun ⟨job, both⟩ => ⟨job, both.symm⟩
    · rcases one key with equal | ⟨job, former, middle⟩
      · rw [equal]
        exact other key
      · rcases other key with equal | ⟨-, -, latter⟩
        · exact .inr ⟨job, former, equal ▸ middle⟩
        · exact .inr ⟨job, former, latter⟩

/-- What the last of the calls that change a job enters for it. -/
def lastEntered? : List JobsCall → Option (Option Job.Spec)
  | [] => none
  | call :: rest => (lastEntered? rest).or (call.job?.map fun _ => call.entered)

/-- The calls change no other job, and the last change of the job is allowed. -/
structure Enters (id : String) (allowed : Option Job.Spec → Prop) (calls : List JobsCall) :
    Prop where
  only : ∀ call ∈ calls, ∀ changed, call.job? = some changed → changed = id
  last : ∀ left, lastEntered? calls = some left → allowed left

namespace Enters

variable {id : String} {allowed : Option Job.Spec → Prop} {call : JobsCall}
  {calls : List JobsCall}

theorem nil : Enters id allowed [] :=
  ⟨fun _ member => (nomatch member), fun _ changes => (nomatch changes)⟩

theorem mono {larger : Option Job.Spec → Prop} (enters : Enters id allowed calls)
    (within : ∀ entry, allowed entry → larger entry) : Enters id larger calls :=
  { enters with last := fun left changes => within left (enters.last left changes) }

theorem tail (enters : Enters id allowed (call :: calls)) : Enters id allowed calls where
  only other member := enters.only other (List.mem_cons_of_mem _ member)
  last left changes := enters.last left (by simp [lastEntered?, changes])

theorem find?_after_other (enters : Enters id allowed (call :: calls)) (jobs : Ledger)
    {key : String} (different : key ≠ id) : (jobs.after call).find? key = jobs.find? key := by
  rw [Ledger.find?_after, if_neg]
  exact fun changes => different (enters.only call List.mem_cons_self key changes)

/-- A call after which the job is not changed makes the last change. -/
theorem find?_after (enters : Enters id allowed (call :: calls)) (quiet : lastEntered? calls = none)
    (jobs : Ledger) :
    (jobs.after call).find? id = (lastEntered? (call :: calls)).getD (jobs.find? id) := by
  have changed := enters.only call List.mem_cons_self
  rw [Ledger.find?_after]
  cases job : call.job? with
  | none => simp [lastEntered?, quiet, job]
  | some other =>
      obtain rfl := changed other job
      simp [lastEntered?, quiet, job]

/-- The calls leave the job at the last entry. -/
theorem find?_afterAll (enters : Enters id allowed calls) (jobs : Ledger) :
    (jobs.afterAll calls).find? id = (lastEntered? calls).getD (jobs.find? id) := by
  induction calls generalizing jobs with
  | nil => rfl
  | cons call rest ih =>
      refine (ih enters.tail (jobs.after call)).trans ?_
      cases later : lastEntered? rest with
      | none => exact enters.find?_after later jobs
      | some left => simp [lastEntered?, later]

theorem find?_afterAll_other (enters : Enters id allowed calls) (jobs : Ledger) {key : String}
    (different : key ≠ id) : (jobs.afterAll calls).find? key = jobs.find? key := by
  induction calls generalizing jobs with
  | nil => rfl
  | cons call rest ih =>
      exact (ih enters.tail (jobs.after call)).trans (enters.find?_after_other jobs different)

/-- Where an entry is allowed, so it is after the calls. -/
theorem allowed_afterAll (enters : Enters id allowed calls) {jobs : Ledger}
    (met : (lastEntered? calls).isSome ∨ allowed (jobs.find? id)) :
    allowed ((jobs.afterAll calls).find? id) := by
  rw [enters.find?_afterAll]
  cases changes : lastEntered? calls with
  | some left => exact enters.last left changes
  | none => exact met.resolve_left (by simp [changes])

/-- Of two who change the job, one may make its next call before the other begins. -/
theorem after_comm {others : List JobsCall} (enters : Enters id allowed (call :: calls))
    (othersEnter : Enters id allowed others) (jobs : Ledger) :
    (Ledger.upTo id allowed).r (((jobs.after call).afterAll others).afterAll calls)
      ((jobs.afterAll others).afterAll (call :: calls)) := by
  intro key
  by_cases same : key = id
  · subst same
    have own := enters.tail.find?_afterAll ((jobs.after call).afterAll others)
    have whole := enters.find?_afterAll (jobs.afterAll others)
    cases later : lastEntered? calls with
    | some left =>
        refine .inl ?_
        rw [own, whole]
        simp [lastEntered?, later]
    | none =>
        rw [later, Option.getD_none, othersEnter.find?_afterAll, enters.find?_after later] at own
        rw [othersEnter.find?_afterAll] at whole
        cases first : lastEntered? (call :: calls) with
        | none =>
            refine .inl ?_
            rw [own, whole, first]
            rfl
        | some entry =>
            refine .inr ⟨rfl, ?_, enters.allowed_afterAll (.inl (by simp [first]))⟩
            rw [own, first]
            cases second : lastEntered? others with
            | none => exact enters.last entry first
            | some other => exact othersEnter.last other second
  · refine .inl ?_
    have whole := enters.find?_afterAll_other (jobs.afterAll others) same
    rw [enters.tail.find?_afterAll_other _ same, othersEnter.find?_afterAll_other _ same,
      enters.find?_after_other jobs same, whole, othersEnter.find?_afterAll_other _ same]

/-- If a job is to be changed or its entry is allowed, then so it is after the next call. -/
theorem met_after (enters : Enters id allowed (call :: calls)) {jobs : Ledger}
    (met : (lastEntered? (call :: calls)).isSome ∨ allowed (jobs.find? id)) :
    (lastEntered? calls).isSome ∨ allowed ((jobs.after call).find? id) := by
  cases later : lastEntered? calls with
  | some left => exact .inl rfl
  | none =>
      have whole := enters.allowed_afterAll met
      have none := enters.tail.find?_afterAll (jobs.after call)
      rw [later, Option.getD_none] at none
      exact .inr (none ▸ whole)

/-- Where the entry of the job is allowed, it is so after any such calls. -/
theorem afterAll_equiv {again : List JobsCall} (enters : Enters id allowed calls)
    (entersAgain : Enters id allowed again) {jobs : Ledger} (there : allowed (jobs.find? id)) :
    (Ledger.upTo id allowed).r (jobs.afterAll calls) (jobs.afterAll again) := by
  intro key
  by_cases same : key = id
  · subst same
    exact .inr ⟨rfl, enters.allowed_afterAll (.inr there),
      entersAgain.allowed_afterAll (.inr there)⟩
  · refine .inl ?_
    rw [enters.find?_afterAll_other _ same, entersAgain.find?_afterAll_other _ same]

end Enters

variable {α : Type}

/-- The rest of a program is not disturbed by another, and the two enter the same job. -/
structure Finishing (store own other : Store) (id : String) (allowed : Option Job.Spec → Prop)
    (calls : List Call) (ending : Ending α) : Prop where
  answers : store.Answers other calls
  enters : Enters id allowed (jobsCalls calls)
  left : ending.left store = own

/-- A program that makes the change, once it has read the row and before.  Begun after the
other is done, it ends in the same way as it does now. -/
inductive Underway (store own other : Store) (id : String) (allowed : Option Job.Spec → Prop) :
    Program α → List JobsCall → Bool → Prop where
  | begun {program : Program α} {calls : List Call} {ending : Ending α}
      (walks : program.Walks store calls ending)
      (finishing : Finishing store own other id allowed calls ending) :
      Underway store own other id allowed program (jobsCalls calls) true
  | waiting {program : Program α} {read : StoreCall} {calls again : List Call}
      {ending afresh : Ending α} (walks : program.Walks store (.store read :: calls) ending)
      (finishing : Finishing store own other id allowed calls ending)
      (walksAgain : program.Walks other again afresh)
      (enters : Enters id allowed (jobsCalls again))
      (result : afresh.result other = ending.result other)
      (left : afresh.left other = ending.left other) :
      Underway store own other id allowed program (jobsCalls calls) false

/-- Programs that make the same change.  While one of them waits, the other still has to
change the job, or the entry of the job is allowed. -/
def MakeSameChange (store : Store) (id : String) (allowed : Option Job.Spec → Prop)
    (first second : Program α) (jobs : Ledger) : Prop :=
  ∃ own other calls begun others otherBegun,
    Underway store own other id allowed first calls begun ∧
      Underway store other own id allowed second others otherBegun ∧
      (begun = false → (lastEntered? others).isSome ∨ allowed (jobs.find? id)) ∧
      (otherBegun = false → (lastEntered? calls).isSome ∨ allowed (jobs.find? id))

variable {store own other : Store} {id : String} {allowed : Option Job.Spec → Prop}
  {first second : Program α} {jobs : Ledger}

theorem MakeSameChange.symm (given : MakeSameChange store id allowed first second jobs) :
    MakeSameChange store id allowed second first jobs := by
  obtain ⟨own, other, calls, begun, others, otherBegun, underway, otherUnderway, met, otherMet⟩ :=
    given
  exact ⟨other, own, others, otherBegun, calls, begun, otherUnderway, underway, otherMet, met⟩

/-- A program that runs alone leaves its store and its calls behind. -/
theorem Underway.run {calls : List JobsCall} {begun : Bool} {program : Program α}
    (underway : Underway store own other id allowed program calls begun) :
    Enters id allowed calls ∧ ∃ result, ∀ jobs, program.run Ledger.scheduler store jobs =
      ⟨result, own, jobs.afterAll calls, calls⟩ := by
  cases underway with
  | @begun _ ending walks finishing =>
      refine ⟨finishing.enters, ending.result store, fun jobs => ?_⟩
      rw [walks.run walks.answers, finishing.left]
  | @waiting read calls again ending afresh walks finishing walksAgain enters result left =>
      refine ⟨finishing.enters, ending.result store, fun jobs => ?_⟩
      rw [walks.run walks.answers, finishing.left]
      rfl

theorem MakeSameChange.yields (given : MakeSameChange store id allowed first second jobs) :
    letI := Ledger.upTo id allowed
    Program.Yields Ledger.scheduler (MakeSameChange store id allowed) store jobs first second := by
  let := Ledger.upTo id allowed
  obtain ⟨own, other, calls, begun, others, otherBegun, underway, otherUnderway, met, otherMet⟩ :=
    given
  obtain ⟨othersEnter, result, alone⟩ := otherUnderway.run
  cases underway with
  | @begun calls ending walks finishing =>
      cases walks with
      | settles result => exact .last result rfl
      | writes call respond => exact .last _ rfl
      | @reads call after calls _ kept rest =>
          have later : Finishing store own other id allowed calls ending :=
            { finishing with answers := finishing.answers.mono (List.subset_cons_self _ _) }
          refine .goesOn kept ⟨own, other, _, true, others, otherBegun, .begun rest later,
            otherUnderway, met, otherMet⟩ (.inr ?_)
          have answer := finishing.answers call List.mem_cons_self
          have same : second.before Ledger.scheduler (after (store.perform call).1) store jobs =
              second.before Ledger.scheduler (.step (.store call) after) store jobs := by
            simp only [Program.before, alone, Program.run, answer]
          rw [Program.advance, same]
          exact Joint.Alike.refl _
      | @asks call after calls _ rest =>
          have whole : Enters id allowed (call :: jobsCalls calls) := finishing.enters
          have later : Finishing store own other id allowed calls ending :=
            { finishing with
              answers := finishing.answers.mono (List.subset_cons_self _ _)
              enters := whole.tail }
          have found (jobs : Ledger) := rest.run later.answers jobs
          refine .goesOn rfl ⟨own, other, _, true, others, otherBegun, .begun ?_ later,
            otherUnderway, ?_, ?_⟩ (.inr (Joint.Alike.swap ?_))
          · rw [Program.advance, Ledger.answer_eq]
            exact rest
          · intro waits
            cases waits
          · rw [Program.advance, Ledger.answer_eq]
            exact fun waits => whole.met_after (otherMet waits)
          · rw [Program.advance, Ledger.answer_eq]
            constructor <;>
              simp only [Program.before, alone, Program.run, Ledger.answer_eq, found]
            exact whole.after_comm othersEnter jobs
  | @waiting _ calls again ending afresh walks finishing walksAgain enters result left =>
      cases walks with
      | @reads call after _ _ kept rest =>
          have found (jobs : Ledger) := rest.run finishing.answers jobs
          have anew (jobs : Ledger) := walksAgain.run walksAgain.answers jobs
          refine .goesOn kept ⟨own, other, _, true, others, otherBegun, .begun rest finishing,
            otherUnderway, ?_, otherMet⟩ (.inr (Joint.Alike.swap ?_))
          · intro waits
            cases waits
          · rw [Program.advance]
            constructor <;> simp only [Program.before, alone, found, anew, result, left]
            exact finishing.enters.afterAll_equiv enters (othersEnter.allowed_afterAll (met rfl))

/-- Two programs that make the same change are serial up to the entry of the job, whatever
turns they take. -/
theorem Underway.interleave_serial {calls others : List JobsCall}
    (underway : Underway store own other id allowed first calls false)
    (otherUnderway : Underway store other own id allowed second others false)
    (changes : (lastEntered? calls).isSome) (otherChanges : (lastEntered? others).isSome)
    (turns : List Turn) (jobs : Ledger) :
    letI := Ledger.upTo id allowed
    first.Serial Ledger.scheduler second store jobs
      (Program.interleave Ledger.scheduler turns first second store jobs) :=
  letI := Ledger.upTo id allowed
  Program.interleave_serial (MakeSameChange store id allowed) MakeSameChange.symm
    MakeSameChange.yields turns
    ⟨own, other, calls, false, others, false, underway, otherUnderway, fun _ => .inl otherChanges,
      fun _ => .inl changes⟩

end ServiceGroups
