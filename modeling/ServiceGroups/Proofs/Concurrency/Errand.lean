import ServiceGroups.Proofs.Concurrency.Contention
import ServiceGroups.Proofs.Concurrency.Resemblance

/-!
# Errands

A task that changes a group, and finds the rows that it needs, runs an errand: it drives the
scheduler with the job of the group and then makes its write.  What the errand leaves is
known.  What a task does after the write of another depends on what is left of the group.
-/

namespace ServiceGroups

/-- The details of a job are determined by what they describe. -/
theorem Job.Details.Describes.unique {details other : Job.Details} {release : String}
    {session : Session} {name : String} {count : UInt32} {template : Template} {account : Account}
    {credential : Credential}
    (describes : details.Describes release session name count template account credential)
    (otherDescribes : other.Describes release session name count template account credential) :
    details = other := by
  have userData : details.userData = other.userData :=
    Option.ext fun data => (describes.userData data).trans (otherDescribes.userData data).symm
  cases describes
  cases otherDescribes
  cases details
  cases other
  simp_all

/-- The rows of an operation are determined by its account and the template of its group. -/
theorem Store.Provides.unique {store : Store} {session partner : Session} {group otherGroup : Group}
    {template other : Template} {account otherAccount : Account}
    {credential otherCredential : Credential}
    (provides : store.Provides session group template account credential)
    (otherProvides : store.Provides partner otherGroup other otherAccount otherCredential)
    (sameOwner : session.accountId = partner.accountId)
    (sameTemplate : group.templateId = otherGroup.templateId) :
    template = other ∧ account = otherAccount ∧ credential = otherCredential := by
  have found := provides.templateFound
  rw [sameTemplate] at found
  obtain rfl := Option.some.inj (found.symm.trans otherProvides.templateFound)
  have owned := provides.accountFound
  rw [sameOwner] at owned
  obtain rfl := Option.some.inj (owned.symm.trans otherProvides.accountFound)
  obtain rfl := Option.some.inj (provides.credentialFound.symm.trans otherProvides.credentialFound)
  exact ⟨rfl, rfl, rfl⟩

/-- A write of a group leaves the rows of an operation. -/
theorem Store.Provides.perform {store : Store} {session : Session} {group : Group}
    {template : Template} {account : Account} {credential : Credential}
    (provides : store.Provides session group template account credential) {call : StoreCall}
    (works : call.part = .groups) :
    (store.perform call).2.Provides session group template account credential := by
  rw [store.perform_of_groups works]
  exact ⟨provides.templateFound, provides.templateOwned, provides.accountFound,
    provides.credentialFound⟩

theorem Ledger.job_injective {text other : String} (same : job text = job other) :
    text = other :=
  Json.Value.string.inj (congrArg Job.Spec.form same)

namespace Operation

/-- What an operation enters for its job. -/
def entered : Operation → Job.Spec → Option Job.Spec
  | delete, _ => none
  | _, job => some job

variable (operation : Operation) (text : String)

/-- An operation brings its job to its entry. -/
theorem enters :
    Enters (Ledger.job text).id (· = operation.entered (Ledger.job text)) (operation.calls text) where
  only _ member _ changes := Http.job?_of_call member changes
  last left last := by
    cases operation <;> exact (Option.some.inj last).symm

theorem lastEntered?_calls :
    lastEntered? (operation.calls text) = some (operation.entered (Ledger.job text)) := by
  cases operation <;> rfl

end Operation

namespace Http

section Plans

variable {store : Store} {moment : Moment} {task : Task} {operation : Operation}
  {session : Session} {group : Group} {call : StoreCall} {response : Response}

/-- Where the name is taken, a creation is denied. -/
theorem plan_of_taken (planned : task.plan moment store = .change operation session group call response)
    (creates : operation = .submit) {other : Store} {found : Group}
    (taken : other.groups.find? (session.accountId, group.name) = some found) :
    task.plan moment other =
      .settle (.error (.failed (.conflict ("service group " ++ group.name ++ " already exists")))) := by
  subst creates
  cases Task.changes_of_plan planned with
  | creates _ draft free =>
      rw [Task.plan, Task.createGroupPlan] at planned ⊢
      split at planned
      · cases planned
      · split at planned
        · cases planned
        · have present := congrArg Option.isSome taken
          exact if_pos present

/-- Where the group is missing, an update or a deletion is denied. -/
theorem plan_of_missing (keyed : store.Keyed)
    (planned : task.plan moment store = .change operation session group call response)
    (registered : operation ≠ .submit) {other : Store}
    (missing : other.groups.find? (session.accountId, group.name) = none) :
    task.plan moment other =
      .settle (.error (.failed (.notFound ("service group " ++ group.name)))) := by
  cases Task.changes_of_plan planned with
  | creates => exact absurd rfl registered
  | updates _ name change old found =>
      obtain rfl : old.name = name := congrArg Prod.snd (keyed.groups _ old found)
      have absent : other.groups.find? (session.accountId, old.name) = none := missing
      rw [Task.plan, Task.updateGroupPlan] at planned ⊢
      split at planned
      · cases planned
      · rw [Task.withGroup, absent]
        rfl
  | deletes _ name _ found =>
      obtain rfl : group.name = name := congrArg Prod.snd (keyed.groups _ group found)
      rw [Task.plan, Task.withGroup, missing]
      rfl

/-- Where the group is present, whatever its row, an update or a deletion is planned. -/
theorem plan_of_present (keyed : store.Keyed)
    (planned : task.plan moment store = .change operation session group call response)
    (registered : operation ≠ .submit) {other : Store} {row : Group}
    (present : other.groups.find? (session.accountId, group.name) = some row)
    (named : row.name = group.name) :
    ∃ next change reply, task.plan moment other = .change operation session next change reply ∧
      next.name = group.name := by
  cases Task.changes_of_plan planned with
  | creates => exact absurd rfl registered
  | updates _ name change old found =>
      obtain rfl : old.name = name := congrArg Prod.snd (keyed.groups _ old found)
      have there : other.groups.find? (session.accountId, old.name) = some row := present
      let next := change.apply moment.now row
      refine ⟨next, .upsertGroup next, .json 200 (Json.encode next), ?_, named⟩
      rw [Task.plan, Task.updateGroupPlan] at planned ⊢
      split at planned
      · cases planned
      · rw [Task.withGroup, there]
  | deletes _ name _ found =>
      obtain rfl : group.name = name := congrArg Prod.snd (keyed.groups _ group found)
      refine ⟨row, .deleteGroup session.accountId row.name, .empty 204, ?_, named⟩
      rw [Task.plan, Task.withGroup, present]

/-- A plan to change a group does not depend on the templates. -/
theorem plan_withTemplates (changes : task.Changes moment store operation session group call)
    (templates : Table Uuid Template) :
    task.plan moment { store with templates := templates } = task.plan moment store := by
  cases changes <;> rfl

end Plans

/-- The change of a group with all that goes into it. -/
structure Errand where
  operation : Operation
  session : Session
  group : Group
  call : StoreCall
  response : Response
  template : Template
  account : Account
  credential : Credential
  details : Job.Details

namespace Errand

variable (errand : Errand)

def plan : Plan :=
  .change errand.operation errand.session errand.group errand.call errand.response

/-- The key of the group. -/
def key : AccountId × String :=
  (errand.session.accountId, errand.group.name)

/-- The job of the group. -/
def job : Job.Spec :=
  Ledger.job errand.details.render

/-- The calls of the scheduler. -/
def calls : List JobsCall :=
  errand.operation.calls errand.details.render

/-- What is entered for the job. -/
def entered : Option Job.Spec :=
  errand.operation.entered errand.job

theorem entered_of_deletes (deletes : errand.operation = .delete) : errand.entered = none := by
  rw [entered, deletes]
  rfl

theorem entered_of_registers (registers : errand.operation ≠ .delete) :
    errand.entered = some errand.job := by
  rw [entered]
  cases operation : errand.operation with
  | delete => exact absurd operation registers
  | submit | update => rfl

theorem enters : Enters errand.job.id (· = errand.entered) errand.calls :=
  errand.operation.enters _

theorem lastEntered?_calls : lastEntered? errand.calls = some errand.entered :=
  errand.operation.lastEntered?_calls _

theorem find?_job (jobs : Ledger) :
    (jobs.afterAll errand.calls).find? errand.job.id = errand.entered := by
  rw [errand.enters.find?_afterAll, lastEntered?_calls]
  rfl

end Errand

section Alone

variable {store : Store} {moment : Moment} {task : Task} {call : StoreCall} {response : Response}

theorem not_isSuccess_error (denial : Denial) : ¬ IsSuccess (.error denial) := by
  intro success
  exact denial.not_success success

/-- A task whose plan is an answer gives the answer. -/
theorem run_of_settled (release : String) (keyed : store.Keyed) {result : Except Denial Response}
    (planned : task.plan moment store = .settle result) (jobs : Ledger) :
    (ExceptT.run (task.handling release moment)).run Ledger.scheduler store jobs =
      ⟨result, store, jobs, []⟩ := by
  obtain ⟨reads, calls, ending, walks, course⟩ := course_task release moment keyed task
  rw [planned] at course
  cases course with
  | settles once =>
      have alone := walks.run walks.answers jobs
      rwa [jobsCalls_callsOf] at alone

/-- A task whose plan is a write makes it. -/
theorem run_of_write (release : String) (keyed : store.Keyed)
    (planned : task.plan moment store = .write call response)
    (jobs : Ledger) :
    (ExceptT.run (task.handling release moment)).run Ledger.scheduler store jobs =
      ⟨answering call response (store.perform call).1, (store.perform call).2, jobs, []⟩ := by
  obtain ⟨reads, calls, ending, walks, course⟩ := course_task release moment keyed task
  rw [planned] at course
  cases course with
  | writes => exact walks.run walks.answers jobs

variable {release : String} {errand : Errand}

/-- On the store, the task runs the errand. -/
structure Runs (release : String) (moment : Moment) (store : Store) (task : Task)
    (errand : Errand) : Prop where
  planned : task.plan moment store = errand.plan
  provides : store.Provides errand.session errand.group errand.template errand.account
    errand.credential
  describes : errand.details.Describes release errand.session errand.group.name
    (errand.operation.count errand.group) errand.template errand.account errand.credential
  walks : (task.handling release moment).Walks store
    (callsOf (.group errand.session.accountId errand.group.name ::
      rowReads errand.session errand.group.templateId errand.account.id) errand.calls)
    (.writes errand.call (answering errand.call errand.response))

/-- A change whose rows are provided is an errand. -/
theorem runs_of_provides (keyed : store.Keyed) (planned : task.plan moment store = errand.plan)
    (provides : store.Provides errand.session errand.group errand.template errand.account
      errand.credential)
    (describes : errand.details.Describes release errand.session errand.group.name
      (errand.operation.count errand.group) errand.template errand.account errand.credential) :
    Runs release moment store task errand := by
  obtain ⟨reads, calls, ending, walks, course⟩ := course_task release moment keyed task
  rw [planned] at course
  cases course with
  | lacks once failure missing => exact absurd ⟨_, _, _, provides⟩ missing
  | changes providesAgain describesAgain =>
      obtain ⟨rfl, rfl, rfl⟩ := provides.unique providesAgain rfl rfl
      obtain rfl := describes.unique describesAgain
      exact ⟨planned, provides, describes, walks⟩

/-- A change that succeeds is an errand. -/
theorem runs_of_success {operation : Operation} {session : Session} {group : Group}
    (keyed : store.Keyed)
    (planned : task.plan moment store = .change operation session group call response)
    {jobs : Ledger}
    (success : IsSuccess ((ExceptT.run (task.handling release moment)).run Ledger.scheduler store
      jobs).result) :
    ∃ errand : Errand, errand.operation = operation ∧ errand.session = session ∧
      errand.group = group ∧ Runs release moment store task errand := by
  obtain ⟨reads, calls, ending, walks, course⟩ := course_task release moment keyed task
  have alone := walks.run walks.answers jobs
  rw [planned] at course
  cases course with
  | lacks once failure missing =>
      rw [alone] at success
      exact absurd success (not_isSuccess_error _)
  | @changes _ _ _ _ _ template account credential details provides describes =>
      refine ⟨⟨operation, session, group, call, response, template, account, credential, details⟩,
        rfl, rfl, rfl, planned, provides, describes, walks⟩

namespace Runs

variable (runs : Runs release moment store task errand)

include runs

theorem changes :
    task.Changes moment store errand.operation errand.session errand.group errand.call :=
  Task.changes_of_plan runs.planned

theorem free (creates : errand.operation = .submit) : store.groups.find? errand.key = none :=
  runs.changes.free creates

theorem exists_row (keyed : store.Keyed) (registered : errand.operation ≠ .submit) :
    ∃ row, store.groups.find? errand.key = some row ∧
      (errand.operation = .delete → row = errand.group) :=
  runs.changes.exists_row keyed registered

/-- The write is accepted, and the response is one of success. -/
theorem accepted (keyed : store.Keyed) :
    ∃ reply, (store.perform errand.call).1 = .ok reply ∧ IsSuccess (.ok errand.response) := by
  have arises := task.plan_arises moment store
  rw [runs.planned] at arises
  obtain ⟨reply, performed⟩ := arises.accepted keyed runs.provides.holder
  exact ⟨reply, by rw [performed], arises.change_isSuccess⟩

theorem run (keyed : store.Keyed) (jobs : Ledger) :
    (ExceptT.run (task.handling release moment)).run Ledger.scheduler store jobs =
      ⟨.ok errand.response, (store.perform errand.call).2, jobs.afterAll errand.calls,
        errand.calls⟩ := by
  obtain ⟨reply, performed, -⟩ := runs.accepted keyed
  have alone := runs.walks.run runs.walks.answers jobs
  rw [jobsCalls_callsOf, Ending.result, performed] at alone
  exact alone

/-- The row of the group after the write. -/
theorem find?_row (keyed : store.Keyed) :
    (store.perform errand.call).2.groups.find? errand.key =
      if errand.operation = .delete then none else some errand.group :=
  runs.changes.find?_after keyed runs.provides.holder

theorem templates_eq : (store.perform errand.call).2.templates = store.templates := by
  rw [store.perform_of_groups runs.changes.part_eq]

theorem accounts_eq : (store.perform errand.call).2.accounts = store.accounts := by
  rw [store.perform_of_groups runs.changes.part_eq]

theorem find?_other (keyed : store.Keyed) {key : AccountId × String} (different : key ≠ errand.key) :
    (store.perform errand.call).2.groups.find? key = store.groups.find? key := by
  refine store.find?_groups_of_write runs.changes.part_eq ?_
  rw [runs.changes.groupKey?_eq keyed]
  exact fun same => different (Option.some.inj same).symm

/-- The identity of the job is its name. -/
theorem job_id (valid : Settings.isRelease release = true) :
    errand.job.id = Orchestrator.jobName errand.group.name errand.account.cloudId := by
  rw [Errand.job, Job.job_id_of_sound (runs.describes.sound valid), runs.describes.jobName]
  rfl

/-- The job of an errand that is no deletion asks for what the row says. -/
theorem asks (valid : Settings.isRelease release = true) (keyed : store.Keyed)
    (registers : errand.operation ≠ .delete) :
    errand.job.AsksFor errand.group errand.template := by
  have count : errand.operation.count errand.group = errand.group.capacity := by
    cases operation : errand.operation with
    | delete => exact absurd operation registers
    | submit | update => rfl
  have describes := runs.describes
  rw [count] at describes
  exact Job.asksFor_of_describes describes (describes.sound valid)
    (keyed.templates _ errand.template runs.provides.templateFound)

end Runs

end Alone

section Pairs

variable {release : String} {store next : Store} {moment otherMoment : Moment}
  {first second : Task} {one other : Errand}

/-- The errands are for one group of one account. -/
structure Errand.Meets (one other : Errand) : Prop where
  owner : one.session.accountId = other.session.accountId
  name : one.group.name = other.group.name

namespace Errand.Meets

theorem symm (meets : one.Meets other) : other.Meets one :=
  ⟨meets.owner.symm, meets.name.symm⟩

theorem key_eq (meets : one.Meets other) : one.key = other.key :=
  Prod.ext meets.owner meets.name

/-- Errands for one group are for one job, also if a write of groups lies between them. -/
theorem job_id_eq (meets : one.Meets other) (valid : Settings.isRelease release = true)
    (runs : Runs release moment store first one) (others : Runs release otherMoment next second other)
    (accounts : next.accounts = store.accounts) : one.job.id = other.job.id := by
  have found := runs.provides.accountFound
  rw [meets.owner, ← accounts] at found
  have account : one.account = other.account :=
    Option.some.inj (found.symm.trans others.provides.accountFound)
  rw [runs.job_id valid, others.job_id valid, meets.name, account]

end Errand.Meets

/-- A task that succeeds where its group still is runs an errand for it. -/
theorem Runs.exists_again (runs : Runs release moment store first one) (keyed : store.Keyed)
    (registered : one.operation ≠ .submit) (tidy : next.Keyed) {row : Group}
    (present : next.groups.find? one.key = some row) (named : row.name = one.group.name)
    {jobs : Ledger}
    (success : IsSuccess ((ExceptT.run (first.handling release moment)).run Ledger.scheduler next
      jobs).result) :
    ∃ again : Errand, again.operation = one.operation ∧ one.Meets again ∧
      Runs release moment next first again := by
  obtain ⟨group, call, response, planned, same⟩ :=
    plan_of_present keyed runs.planned registered present named
  obtain ⟨again, operation, session, rfl, runsAgain⟩ := runs_of_success tidy planned success
  exact ⟨again, operation, ⟨by rw [session], same.symm⟩, runsAgain⟩

end Pairs

end Http

end ServiceGroups
