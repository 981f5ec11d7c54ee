import ServiceGroups.Proofs.Concurrency.Serializability
import ServiceGroups.Proofs.Job.Faithful

/-!
# Requests that contend

Of two requests whose plans contend, one can act on rows that the other has changed since it
read them.  There are turns after which the two leave what neither order of them leaves: a
change is lost, a deleted row is written back, a job asks for what its row does not say, or a
group stands without its template.  So requests of one account are serializable exactly if
they do not contend or one of them would fail anyway.
-/

namespace ServiceGroups

namespace Program

variable {α : Type}

/-- A program can stop after any of the calls that it walks, while the other is run. -/
theorem Walks.suspend {second : Program α} {store : Store} {made rest : List Call}
    {last : Ending α} (walks : second.Walks store (made ++ rest) last) (jobs : Ledger) :
    ∃ later, later.Walks store rest last ∧ ∀ first,
      interleave Ledger.scheduler (List.replicate made.length .second) first second store jobs =
        first.before Ledger.scheduler later store (jobs.afterAll (jobsCalls made)) := by
  induction made generalizing second jobs with
  | nil => exact ⟨second, walks, fun _ => rfl⟩
  | cons call made ih =>
      cases walks with
      | reads kept more =>
          obtain ⟨later, walks, same⟩ := ih more jobs
          refine ⟨later, walks, fun first => ?_⟩
          rw [List.length_cons, List.replicate_succ, interleave, advance, kept]
          exact same first
      | @asks call next _ _ more =>
          obtain ⟨later, walks, same⟩ := ih more (jobs.after call)
          refine ⟨later, walks, fun first => ?_⟩
          rw [List.length_cons, List.replicate_succ, interleave, advance, Ledger.answer_eq]
          exact same first

/-- A program can stop once it has nothing left but calls of the scheduler and its write,
which it then makes on what the other has left. -/
theorem Walks.late {second : Program α} {store : Store} {made : List Call}
    {rest : List JobsCall} {write : StoreCall} {respond : Except Failure write.Reply → α}
    (walks : second.Walks store (made ++ rest.map Call.jobs) (.writes write respond))
    (jobs : Ledger) :
    ∃ turns, ∀ first, interleave Ledger.scheduler turns first second store jobs =
      let former := first.run Ledger.scheduler store (jobs.afterAll (jobsCalls made))
      ⟨former.result, respond (former.store.perform write).1, (former.store.perform write).2,
        former.state.afterAll rest⟩ := by
  obtain ⟨later, walks, same⟩ := walks.suspend jobs
  refine ⟨_, fun first => (same first).trans ?_⟩
  have answers (other : Store) : store.Answers other (rest.map Call.jobs) := by
    simp [Store.Answers]
  simp only [before, walks.run (answers _), jobsCalls_map_jobs]
  rfl

end Program

namespace Http

section Stopping

variable {release : String} {store : Store} {moment : Moment} {task : Task} {errand : Errand}
  (runs : Runs release moment store task errand) (jobs : Ledger)

include runs

/-- The task can stop when it has read its rows, while another program is run. -/
theorem Runs.stop_after_reads :
    ∃ turns, ∀ first : Program (Except Denial Response),
      Program.interleave Ledger.scheduler turns first (ExceptT.run (task.handling release moment))
          store jobs =
        let former := first.run Ledger.scheduler store jobs
        ⟨former.result, answering errand.call errand.response (former.store.perform errand.call).1,
          (former.store.perform errand.call).2, former.state.afterAll errand.calls⟩ := by
  have walks : (ExceptT.run (task.handling release moment)).Walks store
      (List.map Call.store _ ++ List.map Call.jobs _) _ := runs.walks
  obtain ⟨turns, late⟩ := walks.late jobs
  rw [jobsCalls_map_store] at late
  exact ⟨turns, late⟩

/-- The task can stop when it has nothing left but its write, while another program is run. -/
theorem Runs.stop_before_write :
    ∃ turns, ∀ first : Program (Except Denial Response),
      Program.interleave Ledger.scheduler turns first (ExceptT.run (task.handling release moment))
          store jobs =
        let former := first.run Ledger.scheduler store (jobs.afterAll errand.calls)
        ⟨former.result, answering errand.call errand.response (former.store.perform errand.call).1,
          (former.store.perform errand.call).2, former.state⟩ := by
  have whole := runs.walks
  rw [← List.append_nil (callsOf _ _)] at whole
  have walks : (ExceptT.run (task.handling release moment)).Walks store
      (callsOf _ _ ++ List.map Call.jobs []) _ := whole
  obtain ⟨turns, late⟩ := walks.late jobs
  rw [jobsCalls_callsOf] at late
  exact ⟨turns, late⟩

end Stopping

/-- An update is written on any store with the account, and its row is as it was asked for. -/
theorem Task.Changes.write_update {store next : Store} {moment : Moment} {task : Task}
    {session : Session} {group : Group} {call : StoreCall}
    (changes : task.Changes moment store .update session group call) (keyed : store.Keyed)
    (holder : next.accounts.contains session.accountId) :
    ∃ reply row, (next.perform call).1 = .ok reply ∧
      (next.perform call).2.groups.find? (session.accountId, group.name) = some row ∧
        row.templateId = group.templateId ∧ row.capacity = group.capacity := by
  cases changes with
  | updates _ name change old found =>
      have owner : old.accountId = session.accountId :=
        congrArg Prod.fst (keyed.groups _ old found)
      have held : next.accounts.contains (change.apply moment.now old).accountId :=
        owner.symm ▸ holder
      have key : (session.accountId, (change.apply moment.now old).name) =
          ((change.apply moment.now old).accountId, (change.apply moment.now old).name) := by
        rw [← owner]
        rfl
      rw [perform_upsertGroup held, key]
      refine ⟨(), _, rfl, (Table.find?_put _ _ _ _).trans (if_pos rfl), ?_, ?_⟩
      · exact Store.succeeding_templateId _ _
      · exact Store.succeeding_capacity _ _

section Pairs

variable {release : String} {store : Store} {moment otherMoment : Moment} {first second : Task}
  {one other : Errand}

theorem isSuccess_of_status {result other : Except Denial Response}
    (same : (responseOf result).status = (responseOf other).status) (success : IsSuccess result) :
    IsSuccess other := by
  rwa [IsSuccess, Response.isSuccess, ← same]

/-- Turns that lead away from both orders show that tasks are not serializable. -/
theorem Task.not_serializable {turns : List Turn} {jobs : Ledger}
    {joint : Joint (Except Denial Response) Ledger}
    (left : Program.interleave Ledger.scheduler turns (ExceptT.run (first.handling release moment))
      (ExceptT.run (second.handling release otherMoment)) store jobs = joint)
    (former : ¬ joint.Resembles resultStatus
      ((ExceptT.run (first.handling release moment)).before Ledger.scheduler
        (ExceptT.run (second.handling release otherMoment)) store jobs))
    (latter : ¬ joint.Resembles resultStatus
      ((ExceptT.run (second.handling release otherMoment)).before Ledger.scheduler
        (ExceptT.run (first.handling release moment)) store jobs).swap) :
    ¬ Task.Serializable release moment otherMoment first second store jobs := by
  intro serializable
  have ordered := serializable turns
  rw [left] at ordered
  exact ordered.elim former latter

variable (valid : Settings.isRelease release = true) (keyed : store.Keyed)
  (runs : Runs release moment store first one)
  (others : Runs release otherMoment store second other) (meets : one.Meets other) (jobs : Ledger)

include valid keyed runs others meets in
/-- Two creations of one group whose jobs differ: the second registers its job last, and the
row is that of the first. -/
theorem creations_not_serializable (creates : one.operation = .submit)
    (otherCreates : other.operation = .submit) (different : one.job ≠ other.job) :
    ¬ Task.Serializable release moment otherMoment first second store jobs := by
  obtain ⟨turns, late⟩ := others.stop_after_reads jobs
  have joint := late (ExceptT.run (first.handling release moment))
  simp only [runs.run keyed] at joint
  have row := runs.find?_row keyed
  have otherRow := others.find?_row keyed
  rw [if_neg (by simp [creates]), meets.key_eq] at row
  rw [if_neg (by simp [otherCreates]), ← meets.key_eq] at otherRow
  refine Task.not_serializable joint (fun former => ?_) fun latter => ?_
  · have alone := run_of_settled release (keyed.perform one.call)
      (plan_of_taken others.planned otherCreates row)
    have ledgers := former.jobs one.job.id
    simp only [Program.before, runs.run keyed, alone] at ledgers
    rw [one.find?_job, meets.job_id_eq valid runs others rfl, other.find?_job,
      one.entered_of_registers (by simp [creates]),
      other.entered_of_registers (by simp [otherCreates])] at ledgers
    exact different (Option.some.inj ledgers).symm
  · obtain ⟨-, -, success⟩ := runs.accepted keyed
    have alone := run_of_settled release (keyed.perform other.call)
      (plan_of_taken runs.planned creates otherRow)
    have statuses := latter.first
    simp only [Program.before, Joint.swap, others.run keyed, alone] at statuses
    exact not_isSuccess_error _ (isSuccess_of_status statuses success)

omit others meets valid in
include keyed runs in
/-- An update can be written after a change of its group by another. -/
theorem Runs.write_after (updates : one.operation = .update)
    (others : Runs release otherMoment store second other) :
    ∃ reply row, ((store.perform other.call).2.perform one.call).1 = .ok reply ∧
      ((store.perform other.call).2.perform one.call).2.groups.find? one.key = some row ∧
        row.templateId = one.group.templateId ∧ row.capacity = one.group.capacity := by
  have changes := runs.changes
  rw [updates] at changes
  refine changes.write_update keyed ?_
  rw [others.accounts_eq]
  exact runs.provides.holder

omit jobs in
include valid keyed runs others meets in
/-- An update that succeeds after another change leaves a row and a job that agree. -/
theorem Runs.agree_after_update (registers : one.operation ≠ .delete)
    (updates : other.operation = .update) {jobs : Ledger} :
    let latter := (ExceptT.run (second.handling release otherMoment)).run Ledger.scheduler
      (store.perform one.call).2 jobs
    IsSuccess latter.result →
      ∃ row job template, latter.store.groups.find? one.key = some row ∧
        latter.state.find? one.job.id = some job ∧ job.AsksFor row template := by
  intro latter success
  have present := runs.find?_row keyed
  rw [if_neg registers, meets.key_eq] at present
  obtain ⟨again, operation, meetsAgain, runsAgain⟩ := others.exists_again keyed
    (by simp [updates]) (keyed.perform one.call) present meets.name success
  have written : again.operation ≠ .delete := by simp [operation, updates]
  have row := runsAgain.find?_row (keyed.perform one.call)
  rw [if_neg written, ← meetsAgain.key_eq, ← meets.key_eq] at row
  have job := again.find?_job jobs
  rw [again.entered_of_registers written,
    ← meetsAgain.job_id_eq valid others runsAgain runs.accounts_eq,
    ← meets.job_id_eq valid runs others rfl] at job
  have whole : latter = _ := runsAgain.run (keyed.perform one.call) jobs
  rw [whole]
  exact ⟨_, _, again.template, row, job, runsAgain.asks valid (keyed.perform one.call) written⟩

include valid keyed runs others meets in
/-- Two updates of one group to different shapes: the job is that of the first and the row
that of the second. -/
theorem updates_not_serializable (updates : one.operation = .update)
    (otherUpdates : other.operation = .update)
    (different : ¬ (one.group.templateId = other.group.templateId ∧
      one.group.capacity = other.group.capacity)) :
    ¬ Task.Serializable release moment otherMoment first second store jobs := by
  obtain ⟨turns, late⟩ := others.stop_before_write jobs
  have joint := late (ExceptT.run (first.handling release moment))
  obtain ⟨reply, row, written, found, sameTemplate, sameCapacity⟩ :=
    others.write_after keyed otherUpdates runs
  simp only [runs.run keyed, written] at joint
  rw [← meets.key_eq] at found
  have registers : one.operation ≠ .delete := by simp [updates]
  have otherRegisters : other.operation ≠ .delete := by simp [otherUpdates]
  have registered := one.find?_job (jobs.afterAll other.calls)
  rw [one.entered_of_registers registers] at registered
  -- Neither order leaves a row and a job that are apart.
  have parted {job : Job.Spec} {next : Group} {used : Template} (asksAgain : job.AsksFor next used)
      (rows : (some row).map Group.ageless = (some next).map Group.ageless)
      (jobs : some one.job = some job) : False := by
    obtain rfl := Option.some.inj jobs
    obtain ⟨templates, capacities⟩ := (runs.asks valid keyed registers).unique asksAgain
    obtain ⟨rowTemplate, rowCapacity⟩ := Group.shape_eq_of_ageless (Option.some.inj rows)
    exact different ⟨templates.trans (rowTemplate.symm.trans sameTemplate),
      capacities.trans (rowCapacity.symm.trans sameCapacity)⟩
  refine Task.not_serializable joint (fun former => ?_) fun latter => ?_
  · obtain ⟨-, -, success⟩ := others.accepted keyed
    have statuses := former.second
    have rows := former.groups one.key
    have ledgers := former.jobs one.job.id
    simp only [Program.before, runs.run keyed] at statuses rows ledgers
    obtain ⟨next, job, used, present, entered, asksAgain⟩ :=
      runs.agree_after_update valid keyed others meets registers otherUpdates
        (isSuccess_of_status statuses success)
    rw [found, present] at rows
    rw [registered, entered] at ledgers
    exact parted asksAgain rows ledgers
  · obtain ⟨-, -, success⟩ := runs.accepted keyed
    have statuses := latter.first
    have rows := latter.groups one.key
    have ledgers := latter.jobs one.job.id
    simp only [Program.before, Joint.swap, others.run keyed] at statuses rows ledgers
    obtain ⟨next, job, used, present, entered, asksAgain⟩ :=
      others.agree_after_update valid keyed runs meets.symm otherRegisters updates
        (isSuccess_of_status statuses success)
    rw [← meets.key_eq] at present
    rw [← meets.job_id_eq valid runs others rfl] at entered
    rw [found, present] at rows
    rw [registered, entered] at ledgers
    exact parted asksAgain rows ledgers

include keyed runs others meets in
/-- A deletion of a group and an update of it: the update writes the row back. -/
theorem removal_not_serializable (deletes : one.operation = .delete)
    (updates : other.operation = .update) :
    ¬ Task.Serializable release moment otherMoment first second store jobs := by
  obtain ⟨turns, late⟩ := others.stop_before_write jobs
  have joint := late (ExceptT.run (first.handling release moment))
  obtain ⟨reply, row, written, found, -⟩ := others.write_after keyed updates runs
  simp only [runs.run keyed, written] at joint
  have missing := runs.find?_row keyed
  have present := others.find?_row keyed
  rw [if_pos deletes, meets.key_eq] at missing
  rw [if_neg (by simp [updates]), ← meets.key_eq] at present
  refine Task.not_serializable joint (fun former => ?_) fun latter => ?_
  · -- After the deletion the update finds no group.
    obtain ⟨-, -, success⟩ := others.accepted keyed
    have alone := run_of_settled release (keyed.perform one.call)
      (plan_of_missing keyed others.planned (by simp [updates]) missing)
    have statuses := former.second
    simp only [Program.before, runs.run keyed, alone] at statuses
    exact not_isSuccess_error _ (isSuccess_of_status statuses success)
  · -- After the update the deletion leaves no group.
    obtain ⟨-, -, success⟩ := runs.accepted keyed
    have statuses := latter.first
    have rows := latter.groups other.key
    simp only [Program.before, Joint.swap, others.run keyed] at statuses rows
    obtain ⟨again, operation, meetsAgain, runsAgain⟩ := runs.exists_again keyed
      (by simp [deletes]) (keyed.perform other.call) present meets.name.symm
      (isSuccess_of_status statuses success)
    have gone := runsAgain.find?_row (keyed.perform other.call)
    rw [if_pos (operation.trans deletes), ← meetsAgain.key_eq, meets.key_eq] at gone
    rw [runsAgain.run (keyed.perform other.call), found, gone] at rows
    cases rows

omit valid runs meets in
include keyed others in
/-- A change that gives a group a template, and a deletion of the template: the group is
written when its template is gone. -/
theorem template_deletion_not_serializable {owner : AccountId} {response : Response}
    (planned : first.plan moment store =
      .write (.deleteTemplate owner other.group.templateId) response)
    (success : IsSuccess ((ExceptT.run (first.handling release moment)).run Ledger.scheduler store
      jobs).result) :
    ¬ Task.Serializable release moment otherMoment first second store jobs := by
  let removal := StoreCall.deleteTemplate owner other.group.templateId
  have anywhere (next : Store) : first.plan moment next = .write removal response := by
    cases first with
    | deleteTemplate => exact planned
    | _ => cases Task.writes_of_plan planned
  have alone (next : Store) (tidy : next.Keyed) (jobs : Ledger) :=
    run_of_write release tidy (anywhere next) jobs
  rcases performed : store.perform removal with ⟨failure | reply, next⟩
  · rw [alone store keyed, performed] at success
    exact absurd success (not_isSuccess_error _)
  · have tidy : next.Keyed := by
      have left := keyed.perform removal
      rwa [performed] at left
    obtain ⟨checked, committed⟩ := store.perform_eq_ok.mp performed
    obtain ⟨rfl, -⟩ := store.dropTemplate_eq_ok committed
    have row := others.find?_row keyed
    have registers : other.operation ≠ .delete := by
      intro deletes
      obtain ⟨group, found, same⟩ := others.exists_row keyed (by simp [deletes])
      obtain ⟨failure, refused⟩ := store.perform_deleteTemplate_of_used owner found
      rw [same deletes] at refused
      cases performed.symm.trans refused
    rw [if_neg registers] at row
    obtain ⟨turns, late⟩ := others.stop_after_reads jobs
    have joint := late (ExceptT.run (first.handling release moment))
    obtain ⟨_, accepted, otherSuccess⟩ := others.accepted keyed
    have written := store.perform_withTemplates others.changes.part_eq
      (store.templates.erase other.group.templateId)
    simp only [alone store keyed, performed, written, accepted] at joint
    refine Task.not_serializable joint (fun former => ?_) fun latter => ?_
    · -- After the deletion the change finds no template.
      have statuses := former.second
      simp only [Program.before, alone store keyed, performed] at statuses
      obtain ⟨again, -, -, group, runsAgain⟩ := runs_of_success tidy
        ((plan_withTemplates others.changes _).trans others.planned)
        (isSuccess_of_status statuses otherSuccess)
      have found := runsAgain.provides.templateFound
      rw [group, Table.find?_erase, if_pos rfl] at found
      cases found
    · -- After the change the template is used.
      obtain ⟨failure, refused⟩ :=
        (store.perform other.call).2.perform_deleteTemplate_of_used owner row
      have statuses := latter.first
      simp only [Program.before, Joint.swap, others.run keyed, alone _ (keyed.perform other.call)]
        at statuses
      rw [refused] at statuses
      rw [alone store keyed, performed] at success
      exact not_isSuccess_error _ (isSuccess_of_status statuses success)

omit jobs in
include valid keyed runs others meets in
/-- Errands that register one job are for one shape of the group and for one session. -/
theorem Runs.same_of_job (registers : one.operation ≠ .delete)
    (otherRegisters : other.operation ≠ .delete) (same : one.job = other.job) :
    (one.group.templateId = other.group.templateId ∧ one.group.capacity = other.group.capacity) ∧
      one.session = other.session := by
  have asks := runs.asks valid keyed registers
  rw [same] at asks
  refine ⟨asks.unique (others.asks valid keyed otherRegisters), ?_⟩
  have texts : one.details.render = other.details.render := Ledger.job_injective same
  have sound := runs.describes.sound valid
  have otherSound := others.describes.sound valid
  have datacenters := Job.Details.list?_datacenters sound
  have urls := Job.Details.optionValues_cloudUrl sound
  rw [texts, Job.Details.list?_datacenters otherSound, runs.describes.datacenter,
    others.describes.datacenter] at datacenters
  rw [texts, Job.Details.optionValues_cloudUrl otherSound, runs.describes.cloudUrl,
    others.describes.cloudUrl] at urls
  have datacenter := List.singleton_inj.mp (Option.some.inj datacenters)
  have url := List.singleton_inj.mp urls
  calc one.session
      = ⟨one.session.accountId, one.session.datacenter, one.session.cloudUrl⟩ := rfl
    _ = ⟨other.session.accountId, other.session.datacenter, other.session.cloudUrl⟩ := by
        rw [meets.owner, datacenter, url]
    _ = other.session := rfl

omit jobs in
include keyed runs others meets in
/-- Beside the creation of a group there are only creations of it: the group is not there. -/
theorem Runs.submits_beside (creates : other.operation = .submit) : one.operation = .submit := by
  refine Classical.byContradiction fun registered => ?_
  obtain ⟨row, found, -⟩ := runs.exists_row keyed registered
  have free := others.free creates
  rw [← meets.key_eq, found] at free
  cases free

omit meets in
include valid keyed runs others in
/-- Errands of one account whose plans contend are not serializable. -/
theorem Runs.not_serializable (owner : one.session.accountId = other.session.accountId)
    (contends : one.plan.contends other.plan = true) :
    ¬ Task.Serializable release moment otherMoment first second store jobs := by
  simp only [Errand.plan, Plan.contends, Bool.and_eq_true, Bool.or_eq_true, decide_eq_true_eq,
    ne_eq, Prod.mk.injEq] at contends
  obtain ⟨name, differ⟩ := contends
  have meets : one.Meets other := ⟨owner, name⟩
  cases operation : one.operation with
  | submit =>
      cases otherOperation : other.operation with
      | submit =>
          refine creations_not_serializable valid keyed runs others meets jobs operation
            otherOperation fun same => ?_
          obtain ⟨⟨template, capacity⟩, session⟩ := runs.same_of_job valid keyed others meets
            (by simp [operation]) (by simp [otherOperation]) same
          simp [operation, otherOperation, template, capacity, session] at differ
      | update | delete =>
          exact absurd otherOperation (by simp [others.submits_beside keyed runs meets.symm operation])
  | update =>
      cases otherOperation : other.operation with
      | submit =>
          exact absurd operation (by simp [runs.submits_beside keyed others meets otherOperation])
      | update =>
          refine updates_not_serializable valid keyed runs others meets jobs operation
            otherOperation fun same => ?_
          obtain ⟨template, capacity⟩ := same
          simp [operation, otherOperation, template, capacity] at differ
      | delete =>
          have removal := removal_not_serializable keyed others runs meets.symm jobs otherOperation
            operation
          exact fun serializable => removal serializable.swap
  | delete =>
      cases otherOperation : other.operation with
      | submit =>
          exact absurd operation (by simp [runs.submits_beside keyed others meets otherOperation])
      | update =>
          exact removal_not_serializable keyed runs others meets jobs operation otherOperation
      | delete =>
          obtain ⟨row, found, same⟩ := runs.exists_row keyed (by simp [operation])
          obtain ⟨otherRow, otherFound, otherSame⟩ := others.exists_row keyed
            (by simp [otherOperation])
          rw [← meets.key_eq, found] at otherFound
          have groups : one.group = other.group :=
            (same operation).symm.trans ((Option.some.inj otherFound).trans
              (otherSame otherOperation))
          simp [operation, otherOperation, groups] at differ

end Pairs

/-- Tasks of one account are serializable exactly if their plans do not contend or one of the
tasks alone would not succeed. -/
theorem Task.serializable_iff {release : String} (valid : Settings.isRelease release = true)
    {store : Store} (keyed : store.Keyed) (moment otherMoment : Moment) {first second : Task}
    {owner : AccountId} (own : first.IsFor owner) (otherOwn : second.IsFor owner) (jobs : Ledger) :
    Task.Serializable release moment otherMoment first second store jobs ↔
      ¬ ((first.plan moment store).contends (second.plan otherMoment store) ∧
        IsSuccess ((ExceptT.run (first.handling release moment)).run Ledger.scheduler store
          jobs).result ∧
        IsSuccess ((ExceptT.run (second.handling release otherMoment)).run Ledger.scheduler store
          jobs).result) := by
  constructor
  · rintro serializable ⟨contends, success, otherSuccess⟩
    revert serializable
    generalize planned : first.plan moment store = plan at contends
    generalize otherPlanned : second.plan otherMoment store = otherPlan at contends
    unfold Plan.contends at contends
    split at contends
    · next operation session group call response other partner otherGroup write otherResponse =>
        obtain ⟨one, rfl, rfl, rfl, runs⟩ := runs_of_success keyed planned success
        obtain ⟨another, rfl, rfl, rfl, others⟩ := runs_of_success keyed otherPlanned otherSuccess
        have sameOwner : one.session.accountId = another.session.accountId :=
          (own _ runs.changes.session?_eq).trans (otherOwn _ others.changes.session?_eq).symm
        exact runs.not_serializable valid keyed others jobs sameOwner contends
    · next operation session group call response account id answer =>
        obtain ⟨one, rfl, rfl, rfl, runs⟩ := runs_of_success keyed planned success
        obtain rfl := of_decide_eq_true contends
        have deletion := template_deletion_not_serializable keyed runs jobs otherPlanned otherSuccess
        exact fun serializable => deletion serializable.swap
    · next account id answer operation session group call response =>
        obtain ⟨one, rfl, rfl, rfl, runs⟩ := runs_of_success keyed otherPlanned otherSuccess
        obtain rfl := of_decide_eq_true contends
        exact template_deletion_not_serializable keyed runs jobs planned success
    · cases contends
  · intro apart
    exact Task.serializable_of_uncontended moment otherMoment valid keyed own otherOwn jobs
      fun contends success otherSuccess => apart ⟨contends, success, otherSuccess⟩

namespace Service

variable (service : Service)

/-- A request is handled by handling its task and finishing the result. -/
theorem handle_eq_bind (moment : Moment) (request : Request) :
    service.handle moment request =
      (ExceptT.run ((service.task moment request).handling service.release moment)).bind
        fun result => .done (service.finish moment request (responseOf result)) := by
  rw [handle_eq, respond_eq, Program.bind_assoc]
  rfl

/-- What is left to do for a request once the store has been read. -/
def plan (moment : Moment) (request : Request) (store : Store) : Plan :=
  (service.task moment request).plan moment store

/-- The request would be answered with success if it were alone. -/
def Succeeds (moment : Moment) (request : Request) (store : Store) (jobs : Ledger) : Prop :=
  ((service.handle moment request).run Ledger.scheduler store jobs).result.isSuccess = true

theorem succeeds_iff (moment : Moment) (request : Request) (store : Store) (jobs : Ledger) :
    service.Succeeds moment request store jobs ↔
      IsSuccess ((ExceptT.run ((service.task moment request).handling service.release
        moment)).run Ledger.scheduler store jobs).result := by
  rw [Succeeds, handle_eq_bind, Program.run_bind_done, IsSuccess]
  simp [Outcome.map]

theorem reachable_serve (traffic : List (Moment × Request)) {store : Store}
    (reachable : Reachable store) (jobs : Ledger) :
    Reachable (service.serve traffic store jobs).1 := by
  induction traffic generalizing store jobs with
  | nil => exact reachable
  | cons sent rest ih => exact ih (reachable.request service sent.1 sent.2 _ _) _

/-- Two requests of one account, from any store that can arise and with any registered jobs,
are serializable exactly if their plans do not contend or one of them alone would not succeed.
If they are, then whatever turns their handlers take, there is an order of the two in which
one after the other gives the same statuses, rows and registered jobs, apart from identities
and times.  If they are not, then there are turns for which no order does. -/
theorem requests_serializable_iff (valid : Settings.isRelease service.release = true)
    {store : Store} (reachable : Reachable store) (jobs : Ledger) {owner : AccountId}
    {moment otherMoment : Moment} {first second : Request}
    (carries : requestAccount first.headers = .ok owner)
    (otherCarries : requestAccount second.headers = .ok owner) :
    Program.Serializable Response.status (service.handle moment first)
        (service.handle otherMoment second) store jobs ↔
      ¬ ((service.plan moment first store).contends (service.plan otherMoment second store) ∧
        service.Succeeds moment first store jobs ∧
        service.Succeeds otherMoment second store jobs) := by
  have own := service.task_isFor moment first carries
  have otherOwn := service.task_isFor otherMoment second otherCarries
  have kept (moment : Moment) (request : Request) (result : Except Denial Response) :
      (service.finish moment request (responseOf result)).status = resultStatus result :=
    service.finish_status moment request (responseOf result)
  rw [succeeds_iff, succeeds_iff, handle_eq_bind, handle_eq_bind,
    Program.Serializable.map_iff (kept moment first) (kept otherMoment second)]
  exact Task.serializable_iff valid reachable.keyed moment otherMoment own otherOwn jobs

end Service

namespace Sample

/-- The first tenant has made two templates and a group of the first of them. -/
def busy : Store × Ledger :=
  service.serve [(moment 7, templateRequest), (moment 8, templateRequest), (moment 9, groupRequest)]
    twoTenants .empty

/-- The first tenant asks for more machines in its group. -/
def growth : Request :=
  request 1 "PUT" "/v1/tsg/web" "\x7b\"capacity\":5\x7d"

/-- The first tenant moves its group to its second template. -/
def move : Request :=
  request 1 "PUT" "/v1/tsg/web" ("\x7b\"template_id\":\"" ++ (Uuid.mk 8).text ++ "\"\x7d")

theorem reachable_busy : Reachable busy.1 :=
  service.reachable_serve _ (Reachable.holding _) _

/-- The capacity of the first tenant's group in what two requests leave. -/
def capacity (joint : Joint Response Ledger) : Option UInt32 :=
  (joint.store.groups.find? (⟨⟨1⟩⟩, "web")).map Group.capacity

theorem capacity_eq_of_resembles {joint other : Joint Response Ledger}
    (same : joint.Resembles Response.status other) : capacity joint = capacity other := by
  have rows := congrArg (Option.map Group.capacity) (same.groups (⟨⟨1⟩⟩, "web"))
  rwa [Option.map_map, Option.map_map] at rows

end Sample

namespace Service

open Sample in
/-- Two deletions of one group disturb each other and are serializable. -/
theorem deletions_of_a_group_are_serializable :
    Settings.isRelease service.release = true ∧ Reachable busy.1 ∧
      requestAccount groupDeletion.headers = .ok ⟨⟨1⟩⟩ ∧
      (service.plan (moment 10) groupDeletion busy.1).contends
        (service.plan (moment 11) groupDeletion busy.1) = false ∧
      Program.Serializable Response.status (service.handle (moment 10) groupDeletion)
        (service.handle (moment 11) groupDeletion) busy.1 busy.2 := by
  have valid : Settings.isRelease service.release = true :=
    isRelease_ofSettings validate_settings permitAll
  have carries : requestAccount groupDeletion.headers = .ok ⟨⟨1⟩⟩ := by decide +kernel
  have apart : (service.plan (moment 10) groupDeletion busy.1).contends
      (service.plan (moment 11) groupDeletion busy.1) = false := by decide +kernel
  refine ⟨valid, reachable_busy, carries, apart, ?_⟩
  refine (requests_serializable_iff service valid reachable_busy busy.2 carries carries).mpr ?_
  exact fun contend => absurd (apart.symm.trans contend.1) (by decide)

open Sample in
/-- Of an update of the capacity of a group and one of its template, which read the row before
either writes it, the later write loses the capacity. -/
theorem updates_need_not_be_serializable :
    Reachable busy.1 ∧ requestAccount growth.headers = .ok ⟨⟨1⟩⟩ ∧
      requestAccount move.headers = .ok ⟨⟨1⟩⟩ ∧
      ¬ Program.Serializable Response.status (service.handle (moment 10) growth)
        (service.handle (moment 11) move) busy.1 busy.2 := by
  have capacities :
      capacity (Program.interleave Ledger.scheduler [.second] (service.handle (moment 10) growth)
          (service.handle (moment 11) move) busy.1 busy.2) = some 1 ∧
        capacity ((service.handle (moment 10) growth).before Ledger.scheduler
          (service.handle (moment 11) move) busy.1 busy.2) = some 5 ∧
        capacity ((service.handle (moment 11) move).before Ledger.scheduler
          (service.handle (moment 10) growth) busy.1 busy.2).swap = some 5 := by
    decide +kernel
  obtain ⟨lost, former, latter⟩ := capacities
  refine ⟨reachable_busy, by decide +kernel, by decide +kernel, fun serializable => ?_⟩
  have ordered := serializable [.second]
  generalize Program.interleave Ledger.scheduler [.second] (service.handle (moment 10) growth)
    (service.handle (moment 11) move) busy.1 busy.2 = joint at lost ordered
  rcases ordered with same | same
  · exact absurd (lost.symm.trans ((capacity_eq_of_resembles same).trans former)) (by decide)
  · exact absurd (lost.symm.trans ((capacity_eq_of_resembles same).trans latter)) (by decide)

end Service

end Http

end ServiceGroups
