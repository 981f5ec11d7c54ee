import ServiceGroups.Proofs.Concurrency.Errand
import ServiceGroups.Proofs.Http.Agreement

/-!
# Requests at the same time

Two requests of one account whose plans do not contend are serializable: whatever turns their
handlers take, they leave the responses, the rows and the registered jobs of one handler
after the other.  Requests that change one group in the same way make the same change twice,
and every other pair of plans goes compatible ways.
-/

namespace ServiceGroups

namespace Store

variable (store : Store)

theorem perform_insertGroup_of_taken {group found : Group}
    (holder : store.accounts.contains group.accountId)
    (taken : store.groups.find? (group.accountId, group.name) = some found) :
    store.perform (.insertGroup group) =
      (.error (.conflict ("service group " ++ group.name ++ " already exists")), store) := by
  have present : store.groups.contains (group.accountId, group.name) = true := by
    simp [Table.contains, taken]
  have checked : store.precheck (.insertGroup group) = .ok () :=
    store.requireAccount_of_contains holder
  rw [store.perform_of_checked _ checked, commit, addGroup, present]
  rfl

theorem perform_deleteGroup_of_missing {owner : AccountId} {name : String}
    (missing : store.groups.find? (owner, name) = none) :
    store.perform (.deleteGroup owner name) =
      (.error (.notFound ("service group " ++ name)), store) := by
  have absent : store.groups.contains (owner, name) = false := by
    simp [Table.contains, missing]
  have checked : store.precheck (.deleteGroup owner name) = .ok () := rfl
  rw [store.perform_of_checked _ checked, commit, dropGroup, absent]
  rfl

end Store

namespace Http

section Repetitions

variable {release : String} {store : Store} {moment otherMoment : Moment} {first second : Task}
  {operation : Operation} {session partner : Session} {group otherGroup : Group}
  {call write : StoreCall} {response : Response} {one other : Errand}

/-- A change has no more to change where another has led to the same. -/
theorem GroupChange.apply_apply {change other : GroupChange} {now later : Instant} {group : Group}
    (sameTemplate : (change.apply now group).templateId = (other.apply later group).templateId)
    (sameCapacity : (change.apply now group).capacity = (other.apply later group).capacity) :
    change.apply now (other.apply later group) = change.apply now group := by
  simp only [GroupChange.apply] at sameTemplate sameCapacity ⊢
  rw [← sameTemplate, ← sameCapacity]
  cases change.templateId <;> cases change.capacity <;> rfl

/-- The errands change one group in the same way. -/
structure Errand.Repeats (one other : Errand) : Prop extends one.Meets other where
  operation : one.operation = other.operation
  templateId : one.group.templateId = other.group.templateId
  capacity : one.group.capacity = other.group.capacity

theorem Errand.Repeats.symm (repeats : one.Repeats other) : other.Repeats one :=
  ⟨repeats.toMeets.symm, repeats.operation.symm, repeats.templateId.symm, repeats.capacity.symm⟩

/-- An update is planned as before once another has led to the same. -/
theorem plan_after_update (keyed : store.Keyed)
    (planned : first.plan moment store = .change .update session group call response)
    (others : second.Changes otherMoment store .update partner otherGroup write)
    (sameOwner : session.accountId = partner.accountId) (sameName : group.name = otherGroup.name)
    (sameTemplate : group.templateId = otherGroup.templateId)
    (sameCapacity : group.capacity = otherGroup.capacity)
    (holder : store.accounts.contains partner.accountId) :
    first.plan moment (store.perform write).2 = .change .update session group call response ∧
      group.ageless = otherGroup.ageless := by
  have row := others.find?_after keyed holder
  rw [← sameOwner, ← sameName] at row
  cases Task.changes_of_plan planned with
  | updates _ name change old found =>
      cases others with
      | updates _ otherName otherChange other otherFound =>
          obtain rfl : old.name = name := congrArg Prod.snd (keyed.groups _ old found)
          obtain rfl : other.name = otherName :=
            congrArg Prod.snd (keyed.groups _ other otherFound)
          have there : store.groups.find? (session.accountId, old.name) = some other := by
            rw [sameOwner, show old.name = other.name from sameName]
            exact otherFound
          obtain rfl : old = other := Option.some.inj (found.symm.trans there)
          have present : (store.perform (.upsertGroup
              (otherChange.apply otherMoment.now old))).2.groups.find?
                (session.accountId, old.name) = some (otherChange.apply otherMoment.now old) := row
          constructor
          · rw [Task.plan, Task.updateGroupPlan] at planned ⊢
            split at planned
            · cases planned
            · rw [Task.withGroup, found] at planned
              rw [Task.withGroup, present]
              simp only [GroupChange.apply_apply sameTemplate sameCapacity]
              exact planned
          · simp only [GroupChange.apply] at sameTemplate sameCapacity
            simp only [Group.ageless, GroupChange.apply, sameTemplate, sameCapacity]

variable (runs : Runs release moment store first one) (others : Runs release otherMoment store second other)
  (repeats : one.Repeats other) (keyed : store.Keyed)

include runs others repeats keyed

/-- An update runs the same errand once another has led to the same. -/
theorem Runs.after_update (updates : one.operation = .update) :
    Runs release moment (store.perform other.call).2 first one ∧
      one.group.ageless = other.group.ageless := by
  have planned := runs.planned
  have changes := others.changes
  rw [Errand.plan, updates] at planned
  rw [← repeats.operation, updates] at changes
  obtain ⟨same, ageless⟩ := plan_after_update keyed planned changes repeats.owner repeats.name
    repeats.templateId repeats.capacity others.provides.holder
  rw [← updates] at same
  exact ⟨runs_of_provides (keyed.perform other.call) same
    (runs.provides.perform others.changes.part_eq) runs.describes, ageless⟩

/-- A creation or a deletion is denied once another has done the same, with the failure that
its own write now has. -/
theorem Runs.denied_after_repetition (once : one.operation ≠ .update) :
    let next := (store.perform other.call).2
    ∃ failure, first.plan moment next = .settle (.error (.failed failure)) ∧
      next.perform one.call = (.error failure, next) := by
  intro next
  have row := others.find?_row keyed
  rw [← repeats.key_eq, ← repeats.operation] at row
  have held : next.accounts.contains one.session.accountId := by
    have accounts : next.accounts = store.accounts := others.accounts_eq
    rw [accounts]
    exact runs.provides.holder
  obtain ⟨operation, session, group, call, response, template, account, credential, details⟩ := one
  have planned : first.plan moment store = .change operation session group call response :=
    runs.planned
  have changes : first.Changes moment store operation session group call := runs.changes
  cases changes with
  | creates =>
      refine ⟨_, plan_of_taken planned rfl row, ?_⟩
      exact next.perform_insertGroup_of_taken held row
  | updates => exact absurd rfl once
  | deletes =>
      refine ⟨_, plan_of_missing keyed planned (by decide) row, ?_⟩
      exact next.perform_deleteGroup_of_missing row

/-- A task whose errand another one repeats is under way on the change that both make. -/
theorem Runs.underway {allowed : Option Job.Spec → Prop} (allows : allowed one.entered) :
    Underway store (store.perform one.call).2 (store.perform other.call).2 one.job.id allowed
      (ExceptT.run (first.handling release moment)) one.calls false := by
  let next := (store.perform other.call).2
  have reads := readsOnce_group one.session one.group.name one.group.templateId one.account.id
  obtain ⟨fresh, -⟩ := List.nodup_cons.mp reads.distinct
  have enters : Enters one.job.id allowed one.calls :=
    one.enters.mono fun entry same => same ▸ allows
  have finishing : Finishing store (store.perform one.call).2 next one.job.id allowed
      (callsOf (rowReads one.session one.group.templateId one.account.id) one.calls)
      (.writes one.call (answering one.call one.response)) :=
    { answers := answers_of_parts (fun read member => reads.areReads read
        (List.mem_cons_of_mem _ member)) other.call (by rw [others.changes.part_eq]; exact fresh)
      enters := by rwa [jobsCalls_callsOf]
      left := rfl }
  have walks := runs.walks
  rw [callsOf_cons] at walks
  have waits {reads : List StoreCall} {calls : List JobsCall}
      {ending : Ending (Except Denial Response)}
      (again : (first.handling release moment).Walks next (callsOf reads calls) ending)
      (entersAgain : Enters one.job.id allowed calls)
      (result : ending.result next =
        (Ending.writes one.call (answering one.call one.response)).result next)
      (left : ending.left next =
        (Ending.writes one.call (answering one.call one.response)).left next) :
      Underway store (store.perform one.call).2 next one.job.id allowed
        (ExceptT.run (first.handling release moment)) one.calls false := by
    have waiting := Underway.waiting walks finishing again (by rwa [jobsCalls_callsOf]) result left
    rwa [jobsCalls_callsOf] at waiting
  by_cases updates : one.operation = .update
  · obtain ⟨again, -⟩ := runs.after_update others repeats keyed updates
    exact waits again.walks enters rfl rfl
  · obtain ⟨failure, denied, refused⟩ := runs.denied_after_repetition others repeats keyed updates
    obtain ⟨_, _, _, again, course⟩ := course_task release moment (keyed.perform other.call) first
    rw [denied] at course
    cases course with
    | settles once =>
        refine waits again .nil ?_ ?_
        · rw [Ending.result, Ending.result, refused]
          rfl
        · rw [Ending.left, Ending.left, refused]

end Repetitions

section Orders

variable {release : String} {store : Store} {moment otherMoment : Moment} {first second : Task}
  {owner : AccountId} {one other : Errand}

/-- The status of the response to a result. -/
def resultStatus (result : Except Denial Response) : Nat :=
  (responseOf result).status

/-- Whatever turns the tasks take, what they leave resembles one after the other. -/
def Task.Serializable (release : String) (moment otherMoment : Moment) (first second : Task)
    (store : Store) (jobs : Ledger) : Prop :=
  Program.Serializable resultStatus (ExceptT.run (first.handling release moment))
    (ExceptT.run (second.handling release otherMoment)) store jobs

section Repeated

variable (valid : Settings.isRelease release = true) (keyed : store.Keyed)
  (runs : Runs release moment store first one) (others : Runs release otherMoment store second other)
  (repeats : one.Repeats other) (jobs : Ledger)

include valid keyed runs others repeats

/-- Errands that change one group in the same way are serial up to the entry of its job. -/
theorem serial_of_repeats (turns : List Turn) :
    letI := Ledger.upTo other.job.id fun entry => entry = one.entered ∨ entry = other.entered
    (ExceptT.run (first.handling release moment)).Serial Ledger.scheduler
      (ExceptT.run (second.handling release otherMoment)) store jobs
      (Program.interleave Ledger.scheduler turns (ExceptT.run (first.handling release moment))
        (ExceptT.run (second.handling release otherMoment)) store jobs) := by
  let allowed := fun entry => entry = one.entered ∨ entry = other.entered
  have own : allowed one.entered := .inl rfl
  have others' : allowed other.entered := .inr rfl
  have underway := runs.underway others repeats keyed own
  have otherUnderway := others.underway runs repeats.symm keyed others'
  rw [repeats.job_id_eq valid runs others rfl] at underway
  exact underway.interleave_serial otherUnderway (by simp [one.lastEntered?_calls])
    (by simp [other.lastEntered?_calls]) turns jobs

omit valid in
/-- Updates of a group to one shape leave the same rows in both orders. -/
theorem sameRows_of_updates (updates : one.operation = .update) (state otherState : Ledger) :
    Joint.SameRows resultStatus
      ⟨.ok one.response, .ok other.response, ((store.perform one.call).2.perform other.call).2,
        state⟩
      ⟨.ok one.response, .ok other.response, ((store.perform other.call).2.perform one.call).2,
        otherState⟩ := by
  have otherUpdates : other.operation = .update := repeats.operation.symm.trans updates
  obtain ⟨again, ageless⟩ := runs.after_update others repeats keyed updates
  obtain ⟨otherAgain, -⟩ := others.after_update runs repeats.symm keyed otherUpdates
  refine ⟨rfl, rfl, fun id => ?_, fun key => ?_⟩
  · rw [otherAgain.templates_eq, runs.templates_eq, again.templates_eq, others.templates_eq]
  · by_cases there : key = one.key
    · have row := again.find?_row (keyed.perform other.call)
      have otherRow := otherAgain.find?_row (keyed.perform one.call)
      rw [if_neg (by simp [updates])] at row
      rw [if_neg (by simp [otherUpdates]), ← repeats.key_eq] at otherRow
      rw [there, row, otherRow, Option.map_some, Option.map_some, ageless]
    · have elsewhere : key ≠ other.key := repeats.key_eq ▸ there
      rw [otherAgain.find?_other (keyed.perform one.call) elsewhere,
        runs.find?_other keyed there, again.find?_other (keyed.perform other.call) there,
        others.find?_other keyed elsewhere]

/-- Updates of a group to one shape are serializable: in both orders they leave the same
rows, and the job of the group is that of one of them. -/
theorem updates_serializable (updates : one.operation = .update) :
    Task.Serializable release moment otherMoment first second store jobs := by
  intro turns joint
  have otherUpdates : other.operation = .update := repeats.operation.symm.trans updates
  obtain ⟨again, -⟩ := runs.after_update others repeats keyed updates
  obtain ⟨otherAgain, -⟩ := others.after_update runs repeats.symm keyed otherUpdates
  have rows := sameRows_of_updates keyed runs others repeats updates
    ((jobs.afterAll one.calls).afterAll other.calls)
    ((jobs.afterAll other.calls).afterAll one.calls)
  have job := repeats.job_id_eq valid runs others rfl
  have last := other.find?_job (jobs.afterAll one.calls)
  have otherLast := one.find?_job (jobs.afterAll other.calls)
  rw [job] at otherLast
  have apart (key : String) (different : key ≠ other.job.id) :
      ((jobs.afterAll one.calls).afterAll other.calls).find? key =
        ((jobs.afterAll other.calls).afterAll one.calls).find? key := by
    have elsewhere : key ≠ one.job.id := fun same => different (same.trans job)
    rw [other.enters.find?_afterAll_other _ different, one.enters.find?_afterAll_other _ elsewhere,
      one.enters.find?_afterAll_other _ elsewhere, other.enters.find?_afterAll_other _ different]
  have serial := serial_of_repeats valid keyed runs others repeats jobs turns
  unfold Program.Serial at serial
  simp only [Program.before, Joint.swap, runs.run keyed, others.run keyed,
    again.run (keyed.perform other.call), otherAgain.run (keyed.perform one.call)] at serial ⊢
  rcases serial with alike | alike
  · refine Joint.resembles_either alike rows (fun entry allowed => ?_) apart
    rw [last, otherLast]
    exact allowed.symm
  · refine (Joint.resembles_either alike rows.symm (fun entry allowed => ?_) fun key different =>
      (apart key different).symm).symm
    rw [last, otherLast]
    exact allowed

/-- Errands that change one group in the same way are serializable, if those that create it
are for one session. -/
theorem repeats_serializable (sameSession : one.operation = .submit → one.session = other.session) :
    Task.Serializable release moment otherMoment first second store jobs := by
  by_cases updates : one.operation = .update
  · exact updates_serializable valid keyed runs others repeats jobs updates
  · -- The errands lead to the same entry.
    have entry : one.entered = other.entered := by
      obtain ⟨template, account, credential⟩ :=
        runs.provides.unique others.provides repeats.owner repeats.templateId
      cases operation : one.operation with
      | update => exact absurd operation updates
      | delete =>
          rw [one.entered_of_deletes operation,
            other.entered_of_deletes (repeats.operation ▸ operation)]
      | submit =>
          have count : one.operation.count one.group = other.operation.count other.group := by
            rw [← repeats.operation, operation]
            exact repeats.capacity
          have describes := runs.describes
          rw [count, template, account, credential, repeats.name, sameSession operation] at describes
          have details := describes.unique others.describes
          rw [one.entered_of_registers (by simp [operation]),
            other.entered_of_registers (by simp [← repeats.operation, operation]), Errand.job,
            Errand.job, details]
    refine Program.serializable_of_serial resultStatus fun turns => ?_
    have serial := serial_of_repeats valid keyed runs others repeats jobs turns
    have single (former latter : Option Job.Spec)
        (own : former = one.entered ∨ former = other.entered)
        (others : latter = one.entered ∨ latter = other.entered) : former = latter := by
      rw [entry, or_self] at own others
      rw [own, others]
    exact serial.imp (Joint.alike_of_upTo single) (Joint.alike_of_upTo single)

end Repeated

/-- Tasks of one account are serializable, unless their plans contend and each of them alone
would succeed. -/
theorem Task.serializable_of_uncontended (moment otherMoment : Moment)
    (valid : Settings.isRelease release = true) (keyed : store.Keyed)
    (own : first.IsFor owner) (otherOwn : second.IsFor owner) (jobs : Ledger)
    (apart : (first.plan moment store).contends (second.plan otherMoment store) →
      IsSuccess ((ExceptT.run (first.handling release moment)).run Ledger.scheduler store
          jobs).result →
        ¬ IsSuccess ((ExceptT.run (second.handling release otherMoment)).run Ledger.scheduler
          store jobs).result) :
    Task.Serializable release moment otherMoment first second store jobs := by
  obtain ⟨reads, calls, ending, walks, course⟩ := course_task release moment keyed first
  obtain ⟨others, more, last, otherWalks, otherCourse⟩ :=
    course_task release otherMoment keyed second
  have alone := walks.run walks.answers jobs
  have otherAlone := otherWalks.run otherWalks.answers jobs
  rw [alone, otherAlone] at apart
  have serializable (compatible : Compatible store (callsOf reads calls) ending
      (callsOf others more) last) :
      Task.Serializable release moment otherMoment first second store jobs :=
    Program.serializable_of_serial _ fun turns =>
      compatible.interleave_serial walks otherWalks turns jobs
  rcases compatible_of_courses valid keyed course otherCourse apart walks.answers
      otherWalks.answers with compatible | repeats
  · exact serializable compatible
  · generalize planned : first.plan moment store = plan at repeats course
    generalize otherPlanned : second.plan otherMoment store = otherPlan at repeats otherCourse
    cases repeats with
    | @intro operation session partner group otherGroup _ _ _ _ sameName sameTemplate sameCapacity
        sameSession =>
        have sameOwner : session.accountId = partner.accountId :=
          (own session (Task.changes_of_plan planned).session?_eq).trans
            (otherOwn partner (Task.changes_of_plan otherPlanned).session?_eq).symm
        cases course with
        | lacks once => exact serializable (compatible_of_settles once _ otherWalks.answers)
        | changes provides describes =>
            cases otherCourse with
            | lacks once => exact serializable (compatible_of_settles once _ walks.answers).symm
            | changes otherProvides otherDescribes =>
                have runs : Runs release moment store first ⟨operation, session, group, _, _, _, _, _, _⟩ :=
                  ⟨planned, provides, describes, walks⟩
                have others : Runs release otherMoment store second ⟨operation, partner, otherGroup, _, _, _, _, _, _⟩ :=
                  ⟨otherPlanned, otherProvides, otherDescribes, otherWalks⟩
                exact repeats_serializable valid keyed runs others
                  ⟨⟨sameOwner, sameName⟩, rfl, sameTemplate, sameCapacity⟩ jobs sameSession

end Orders

end Http

end ServiceGroups
