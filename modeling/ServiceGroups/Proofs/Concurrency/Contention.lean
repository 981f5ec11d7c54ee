import ServiceGroups.Proofs.Concurrency.Course
import ServiceGroups.Proofs.Http.CleanErrors
import ServiceGroups.Proofs.Http.Ownership
import ServiceGroups.Proofs.Job.Naming

/-!
# Contention

Two plans contend if both change one group, but not in the same way, or if one gives a group
a template that the other deletes.  Two creations of a group whose sessions differ contend as
well.  Of tasks whose plans do not contend, each reads the same before and after the other,
or the rest of its way commutes with the other.  The exception are tasks that change one
group in the same way: each disturbs the other, and yet they do not contend.
-/

namespace ServiceGroups

/-- The key of the group that a call writes. -/
def StoreCall.groupKey? : StoreCall → Option (AccountId × String)
  | .insertGroup row => some (row.accountId, row.name)
  | .upsertGroup row => some (row.accountId, row.name)
  | .deleteGroup owner name => some (owner, name)
  | _ => none

namespace Store

variable (store : Store)

/-- The table of templates does not matter to a call that works on groups. -/
theorem perform_withTemplates {call : StoreCall} (works : call.part = .groups)
    (templates : Table Uuid Template) :
    ({ store with templates := templates } : Store).perform call =
      ((store.perform call).1, { (store.perform call).2 with templates := templates }) := by
  cases call with
  | group | groups => rfl
  | insertGroup group =>
      cases held : store.accounts.contains group.accountId <;>
        cases taken : store.groups.contains (group.accountId, group.name) <;>
          simp [perform, precheck, requireAccount, commit, addGroup, held, taken]
  | upsertGroup group =>
      cases held : store.accounts.contains group.accountId <;>
        simp [perform, precheck, requireAccount, commit, putGroup, held]
  | deleteGroup owner name =>
      cases present : store.groups.contains (owner, name) <;>
        simp [perform, precheck, commit, dropGroup, present]
  | _ => cases works

/-- The table of groups does not matter to writing a template. -/
theorem perform_upsertTemplate_withGroups (template : Template)
    (groups : Table (AccountId × String) Group) :
    ({ store with groups := groups } : Store).perform (.upsertTemplate template) =
      ((store.perform (.upsertTemplate template)).1,
        { (store.perform (.upsertTemplate template)).2 with groups := groups }) := by
  let other : Store := { store with groups := groups }
  cases checked : store.requireAccount template.accountId with
  | error failure =>
      rw [store.perform_of_refused (.upsertTemplate template) checked]
      exact other.perform_of_refused (.upsertTemplate template) checked
  | ok _ =>
      have performed := store.perform_of_checked (.upsertTemplate template) checked
      have otherPerformed := other.perform_of_checked (.upsertTemplate template) checked
      by_cases taken : (store.templates.find? template.id).any (·.accountId ≠ template.accountId)
      · have refused : store.putTemplate template = (.error _, store) := if_pos taken
        have otherRefused : other.putTemplate template = (.error _, other) := if_pos taken
        rw [commit, refused] at performed
        rw [commit, otherRefused] at otherPerformed
        rw [performed, otherPerformed]
      · have accepted : store.putTemplate template = (.ok (), _) := if_neg taken
        have otherAccepted : other.putTemplate template = (.ok (), _) := if_neg taken
        rw [commit, accepted] at performed
        rw [commit, otherAccepted] at otherPerformed
        rw [performed, otherPerformed]

/-- A write of groups and a write of a template can be made in either order. -/
theorem perform_comm_upsertTemplate {call : StoreCall} (works : call.part = .groups)
    (template : Template) :
    (store.perform (.upsertTemplate template)).2.perform call =
        ((store.perform call).1, ((store.perform call).2.perform (.upsertTemplate template)).2) ∧
      ((store.perform call).2.perform (.upsertTemplate template)).1 =
        (store.perform (.upsertTemplate template)).1 := by
  let write : StoreCall := .upsertTemplate template
  have written : (store.perform write).2 = _ := store.perform_of_templates rfl
  have changed := store.perform_of_groups works
  generalize (store.perform (.upsertTemplate template)).2.templates = templates at written
  generalize (store.perform call).2.groups = groups at changed
  have first := store.perform_withTemplates works templates
  have second := store.perform_upsertTemplate_withGroups template groups
  rw [written] at second ⊢
  rw [changed] at first ⊢
  rw [first, second]
  exact ⟨rfl, rfl⟩

/-- A write of a group leaves the groups under other keys. -/
theorem find?_groups_of_write {call : StoreCall} {key : AccountId × String}
    (works : call.part = .groups) (different : call.groupKey? ≠ some key) :
    (store.perform call).2.groups.find? key = store.groups.find? key := by
  rcases performed : store.perform call with ⟨failure | reply, next⟩
  · rw [store.perform_of_error performed]
  · obtain ⟨_, committed⟩ := store.perform_eq_ok.mp performed
    cases call with
    | group | groups =>
        cases committed
        rfl
    | insertGroup group =>
        obtain ⟨rfl, _⟩ := store.addGroup_eq_ok committed
        refine (Table.find?_put store.groups _ _ _).trans (if_neg ?_)
        exact fun same => different (congrArg some same.symm)
    | upsertGroup group =>
        cases committed
        refine (Table.find?_put store.groups _ _ _).trans (if_neg ?_)
        exact fun same => different (congrArg some same.symm)
    | deleteGroup owner name =>
        obtain ⟨rfl, _⟩ := store.dropGroup_eq_ok committed
        refine (Table.find?_erase store.groups _ _).trans (if_neg ?_)
        exact fun same => different (congrArg some same.symm)
    | _ => cases works

theorem find?_templates_of_deletion {owner : AccountId} {id other : Uuid} (different : other ≠ id) :
    (store.perform (.deleteTemplate owner id)).2.templates.find? other =
      store.templates.find? other := by
  rcases performed : store.perform (.deleteTemplate owner id) with ⟨failure | reply, next⟩
  · rw [store.perform_of_error performed]
  · obtain ⟨_, committed⟩ := store.perform_eq_ok.mp performed
    obtain ⟨rfl, _⟩ := store.dropTemplate_eq_ok committed
    simp [different]

/-- A template that is used is not deleted. -/
theorem perform_deleteTemplate_of_used (owner : AccountId) {key : AccountId × String}
    {group : Group} (found : store.groups.find? key = some group) :
    ∃ failure, store.perform (.deleteTemplate owner group.templateId) = (.error failure, store) := by
  have used : store.templateInUse group.templateId = true :=
    templateInUse_iff.mpr ⟨key, group, found, rfl⟩
  exact ⟨_, store.perform_of_refused (.deleteTemplate owner group.templateId) (if_pos used)⟩

end Store

namespace Http

namespace Plan

/-- The plans are not safe at the same time. -/
def contends : Plan → Plan → Bool
  | .change operation session group _ _, .change other partner otherGroup _ _ =>
    group.name = otherGroup.name &&
      ((operation, group.templateId, group.capacity) ≠
        (other, otherGroup.templateId, otherGroup.capacity) ||
          operation = .submit && session ≠ partner)
  | .change _ _ group _ _, .write (.deleteTemplate _ id) _ => group.templateId = id
  | .write (.deleteTemplate _ id) _, .change _ _ group _ _ => group.templateId = id
  | _, _ => false

/-- The plans change one group in the same way. -/
inductive Repeats : Plan → Plan → Prop where
  | intro {operation : Operation} {session other : Session} {group otherGroup : Group}
      {call write : StoreCall} {response otherResponse : Response}
      (sameName : group.name = otherGroup.name)
      (sameTemplate : group.templateId = otherGroup.templateId)
      (sameCapacity : group.capacity = otherGroup.capacity)
      (sameSession : operation = .submit → session = other) :
      Repeats (.change operation session group call response)
        (.change operation other otherGroup write otherResponse)

end Plan

namespace Task.Changes

variable {moment : Moment} {store : Store} {task : Task} {operation : Operation}
  {session : Session} {group : Group} {call : StoreCall}

theorem part_eq (changes : task.Changes moment store operation session group call) :
    call.part = .groups := by
  cases changes <;> rfl

theorem groupKey?_eq (changes : task.Changes moment store operation session group call)
    (keyed : store.Keyed) : call.groupKey? = some (session.accountId, group.name) := by
  cases changes with
  | creates | deletes => rfl
  | updates _ name change old found =>
      have owner : old.accountId = session.accountId :=
        congrArg Prod.fst (keyed.groups _ old found)
      simp [StoreCall.groupKey?, GroupChange.apply, owner]

theorem session?_eq (changes : task.Changes moment store operation session group call) :
    task.session? = some session := by
  cases changes <;> rfl

theorem free (changes : task.Changes moment store operation session group call)
    (creates : operation = .submit) :
    store.groups.find? (session.accountId, group.name) = none := by
  subst creates
  cases changes with
  | creates _ draft free => exact free

/-- A change other than a creation finds a row, and a deletion is of the row that it finds. -/
theorem exists_row (changes : task.Changes moment store operation session group call)
    (keyed : store.Keyed) (registered : operation ≠ .submit) :
    ∃ row, store.groups.find? (session.accountId, group.name) = some row ∧
      (operation = .delete → row = group) := by
  cases changes with
  | creates => exact absurd rfl registered
  | updates _ name change old found =>
      obtain rfl : old.name = name := congrArg Prod.snd (keyed.groups _ old found)
      exact ⟨old, found, nofun⟩
  | deletes _ name _ found =>
      obtain rfl : group.name = name := congrArg Prod.snd (keyed.groups _ group found)
      exact ⟨group, found, fun _ => rfl⟩

/-- The row of the group after its write. -/
theorem find?_after (changes : task.Changes moment store operation session group call)
    (keyed : store.Keyed) (holder : store.accounts.contains session.accountId) :
    (store.perform call).2.groups.find? (session.accountId, group.name) =
      if operation = .delete then none else some group := by
  cases changes with
  | creates _ draft free =>
      rw [perform_insertGroup holder free]
      exact find?_leaves .submit
  | updates _ name change old found =>
      rw [perform_upsertGroup_of_found keyed holder found change moment]
      exact find?_leaves .update
  | deletes _ name _ found =>
      rw [perform_deleteGroup_of_found keyed found]
      exact find?_leaves .delete

end Task.Changes

section Compatibility

variable {α : Type} {store : Store} {reads : List StoreCall} {jobs : List JobsCall}
  {more : List Call} {last : Ending α}

/-- Any walk is compatible with one that settles. -/
theorem compatible_of_settles (once : ReadsOnce reads) (result : α)
    (answers : store.Answers store more) :
    Compatible store (callsOf reads []) (.settles result) more last where
  apart := by simp
  first := tolerates_of_readsOnce once fun later within given =>
    { answers := given, moreAnswers := answers, result := rfl, lastResult := rfl, left := rfl }
  second call rest inside := .inl (answers call (inside.subset List.mem_cons_self))

theorem tolerates_nil {ending : Ending α} : Tolerates store [] ending more last := by
  intro call rest inside
  cases List.suffix_nil.mp inside

theorem compatible_of_writes (ending : Ending α) : Compatible store [] ending [] last where
  apart := by simp [jobsCalls]
  first := tolerates_nil
  second := tolerates_nil

/-- A walk that writes groups is compatible with writing a template. -/
theorem compatible_upsertTemplate (once : ReadsOnce reads) {call : StoreCall}
    (works : call.part = .groups) (template : Template)
    (respond : Except Failure call.Reply → α) (otherRespond : Except Failure Unit → α) :
    Compatible store (callsOf reads jobs) (.writes call respond) []
      (.writes (.upsertTemplate template) otherRespond) where
  apart := by simp [jobsCalls]
  first := tolerates_of_readsOnce once fun later within given => by
    obtain ⟨same, response⟩ := store.perform_comm_upsertTemplate works template
    constructor
    · exact given
    · intro other member
      cases member
    · simp only [Ending.result, Ending.left, same]
    · simp only [Ending.result, Ending.left, response]
    · simp only [Ending.left, same]
  second := tolerates_nil

variable {session : Session} {name : String} {templateId id : Uuid} {account : AccountId}
  {ending : Ending α}

/-- The reads of a change read one group and one template. -/
theorem read_of_part {call : StoreCall}
    (member : call ∈ .group session.accountId name :: rowReads session templateId account) :
    (call.part = .groups → call = .group session.accountId name) ∧
      (call.part = .templates → call = .template session.accountId templateId) := by
  simp only [rowReads, List.mem_cons, List.not_mem_nil, or_false] at member
  rcases member with rfl | rfl | rfl | rfl <;> simp [StoreCall.part]

/-- Deleting another template, or one that stays, disturbs no read of a change. -/
theorem tolerates_deleteTemplate {owner : AccountId}
    (spared : templateId ≠ id ∨ (store.perform (.deleteTemplate owner id)).2 = store)
    (respond : Except Failure Unit → α) :
    Tolerates store
      (callsOf (.group session.accountId name :: rowReads session templateId account) jobs)
      ending more (.writes (.deleteTemplate owner id) respond) := by
  refine tolerates_of_undisturbed fun call member => ?_
  have isRead := (readsOnce_group session name templateId account).areReads call member
  rw [Ending.left]
  rcases spared with different | stays
  · by_cases table : call.part = .templates
    · rw [(read_of_part member).2 table, Store.perform_template, Store.perform_template,
        store.find?_templates_of_deletion different]
    · exact Store.perform_of_samePart isRead
        (Store.samePart_perform (.deleteTemplate owner id) table)
  · rw [stays]
    exact Prod.ext rfl (Store.perform_of_isRead isRead)

/-- A write of another group disturbs no read of a change. -/
theorem tolerates_write {write : StoreCall} (works : write.part = .groups)
    (different : write.groupKey? ≠ some (session.accountId, name))
    (respond : Except Failure write.Reply → α) :
    Tolerates store
      (callsOf (.group session.accountId name :: rowReads session templateId account) jobs)
      ending more (.writes write respond) := by
  refine tolerates_of_undisturbed fun call member => ?_
  have isRead := (readsOnce_group session name templateId account).areReads call member
  rw [Ending.left]
  by_cases table : call.part = .groups
  · rw [(read_of_part member).1 table, Store.perform_group, Store.perform_group,
      store.find?_groups_of_write works different]
  · exact Store.perform_of_samePart isRead (Store.samePart_perform write (works ▸ table))

/-- The calls of an operation change no job but its own. -/
theorem job?_of_call {operation : Operation} {text : String} {call : JobsCall} {changed : String}
    (member : call ∈ operation.calls text) (changes : call.job? = some changed) :
    changed = (Ledger.job text).id := by
  have calls : call = .parse text ∨ call = .validate (Ledger.job text) ∨
      call = .register (Ledger.job text) ∨ call = .force (Ledger.job text).id ∨
      call = .deregister (Ledger.job text).id true := by
    cases operation <;>
      simp [Operation.calls, Operation.stages, Operation.registering, Operation.removing]
        at member <;> tauto
  rcases calls with rfl | rfl | rfl | rfl | rfl <;> cases changes <;> rfl

end Compatibility

section Tasks

variable {store : Store} {moment otherMoment : Moment} {first second : Task}
  {operation otherOperation : Operation} {session other : Session} {group otherGroup : Group}
  {call write : StoreCall}

/-- A change of a group is compatible with a write of a template, unless the write deletes
the template of the group. -/
theorem compatible_of_change_write
    (changes : first.Changes moment store operation session group call)
    (writes : second.Writes otherMoment write)
    (stays : ∀ owner, write = .deleteTemplate owner group.templateId →
      (store.perform write).2 = store)
    (account : AccountId) (jobs : List JobsCall) (response otherResponse : Response) :
    Compatible store
      (callsOf (.group session.accountId group.name ::
        rowReads session group.templateId account) jobs)
      (.writes call (answering call response)) [] (.writes write (answering write otherResponse)) := by
  cases writes with
  | creates other draft =>
      exact compatible_upsertTemplate (readsOnce_group session _ _ _) changes.part_eq _ _ _
  | deletes other id =>
      have spared : group.templateId ≠ id ∨
          (store.perform (.deleteTemplate other.accountId id)).2 = store := by
        by_cases used : group.templateId = id
        · exact .inr (stays _ (by rw [used]))
        · exact .inl used
      exact ⟨by simp [jobsCalls], tolerates_deleteTemplate spared _, tolerates_nil⟩

/-- Changes of different groups are compatible: their jobs are different, and so are the
rows they write. -/
theorem compatible_of_changes {α : Type} {release : String}
    (valid : Settings.isRelease release = true)
    (keyed : store.Keyed) (changes : first.Changes moment store operation session group call)
    (others : second.Changes otherMoment store otherOperation other otherGroup write)
    (different : group.name ≠ otherGroup.name) {template otherTemplate : Template}
    {account otherAccount : Account} {credential otherCredential : Credential}
    {details otherDetails : Job.Details}
    (describes : details.Describes release session group.name (operation.count group) template
      account credential)
    (otherDescribes : otherDetails.Describes release other otherGroup.name
      (otherOperation.count otherGroup) otherTemplate otherAccount otherCredential)
    (respond : Except Failure call.Reply → α) (otherRespond : Except Failure write.Reply → α) :
    Compatible store
      (callsOf (.group session.accountId group.name ::
          rowReads session group.templateId account.id)
        (operation.calls details.render))
      (.writes call respond)
      (callsOf (.group other.accountId otherGroup.name ::
          rowReads other otherGroup.templateId otherAccount.id)
        (otherOperation.calls otherDetails.render))
      (.writes write otherRespond) where
  apart := by
    rw [jobsCalls_callsOf, jobsCalls_callsOf]
    intro job member another within id changed alsoChanged
    have same := (job?_of_call member changed).symm.trans (job?_of_call within alsoChanged)
    rw [Job.job_id_of_sound (describes.sound valid),
      Job.job_id_of_sound (otherDescribes.sound valid), describes.jobName,
      otherDescribes.jobName] at same
    exact different (Orchestrator.jobName_injective same).1
  first := tolerates_write others.part_eq (by
    rw [others.groupKey?_eq keyed]
    intro same
    exact different (congrArg Prod.snd (Option.some.inj same)).symm) _
  second := tolerates_write changes.part_eq (by
    rw [changes.groupKey?_eq keyed]
    intro same
    exact different (congrArg Prod.snd (Option.some.inj same))) _

end Tasks

section Courses

/-- The result makes a response of success. -/
def IsSuccess (result : Except Denial Response) : Prop :=
  (responseOf result).isSuccess = true

variable {release : String} {store : Store} {moment otherMoment : Moment} {first second task : Task}
  {owner : AccountId} {reads more : List StoreCall} {jobs others : List JobsCall}
  {ending last : Ending (Except Denial Response)} {operation : Operation} {session : Session}
  {group : Group} {call : StoreCall} {response : Response}

/-- A change succeeds when its rows are provided. -/
theorem isSuccess_of_change (keyed : store.Keyed)
    (planned : task.plan moment store = .change operation session group call response)
    (holder : store.accounts.contains session.accountId) :
    IsSuccess ((Ending.writes call (answering call response)).result store) := by
  have arises := task.plan_arises moment store
  rw [planned] at arises
  obtain ⟨reply, performed⟩ := arises.accepted keyed holder
  rw [Ending.result, performed]
  exact arises.change_isSuccess

/-- A write that does not succeed leaves the store as it is. -/
theorem left_of_not_isSuccess (planned : task.plan moment store = .write call response)
    (refused : ¬ IsSuccess ((Ending.writes call (answering call response)).result store)) :
    (store.perform call).2 = store := by
  have arises := task.plan_arises moment store
  rw [planned] at arises
  rcases performed : store.perform call with ⟨failure | reply, next⟩
  · exact store.perform_of_error performed
  · refine absurd ?_ refused
    rw [Ending.result, performed]
    exact arises.write_isSuccess

/-- Tasks go ways that are compatible, unless their plans contend and would both succeed, or
change one group in the same way. -/
theorem compatible_of_courses (valid : Settings.isRelease release = true) (keyed : store.Keyed)
    (course : (first.plan moment store).Course release store reads jobs ending)
    (otherCourse : (second.plan otherMoment store).Course release store more others last)
    (apart : (first.plan moment store).contends (second.plan otherMoment store) →
      IsSuccess (ending.result store) → ¬ IsSuccess (last.result store))
    (answers : store.Answers store (callsOf reads jobs))
    (otherAnswers : store.Answers store (callsOf more others)) :
    Compatible store (callsOf reads jobs) ending (callsOf more others) last ∨
      (first.plan moment store).Repeats (second.plan otherMoment store) := by
  generalize planned : first.plan moment store = plan at course apart
  generalize otherPlanned : second.plan otherMoment store = otherPlan at otherCourse apart
  cases course with
  | settles once | lacks once => exact .inl (compatible_of_settles once _ otherAnswers)
  | writes call response =>
      cases otherCourse with
      | settles once | lacks once => exact .inl (compatible_of_settles once _ answers).symm
      | writes => exact .inl (compatible_of_writes _)
      | changes provides describes =>
          have succeeds := isSuccess_of_change keyed otherPlanned provides.holder
          have compatible := compatible_of_change_write (Task.changes_of_plan otherPlanned)
            (Task.writes_of_plan planned) fun owner same => by
              subst same
              exact left_of_not_isSuccess planned fun made =>
                apart (by simp [Plan.contends]) made succeeds
          exact .inl (compatible _ _ _ _).symm
  | @changes operation session group _ _ _ _ _ _ provides describes =>
      have changes := Task.changes_of_plan planned
      have succeeds := isSuccess_of_change keyed planned provides.holder
      cases otherCourse with
      | settles once | lacks once => exact .inl (compatible_of_settles once _ answers).symm
      | writes =>
          have compatible := compatible_of_change_write changes (Task.writes_of_plan otherPlanned)
            fun owner same => by
              subst same
              exact left_of_not_isSuccess otherPlanned (apart (by simp [Plan.contends]) succeeds)
          exact .inl (compatible _ _ _ _)
      | @changes otherOperation other otherGroup _ _ _ _ _ _ otherProvides otherDescribes =>
          have otherChanges := Task.changes_of_plan otherPlanned
          have otherSucceeds := isSuccess_of_change keyed otherPlanned otherProvides.holder
          by_cases sameName : group.name = otherGroup.name
          · have quiet := mt (fun contends => apart contends succeeds) (not_not_intro otherSucceeds)
            simp only [Plan.contends, sameName, decide_true, Bool.true_and, Bool.or_eq_true,
              decide_eq_true_eq, Bool.and_eq_true, not_or, not_not, Prod.mk.injEq] at quiet
            obtain ⟨⟨rfl, sameTemplate, sameCapacity⟩, sameSession⟩ := quiet
            exact .inr (.intro sameName sameTemplate sameCapacity fun registers =>
              not_not.mp fun different => sameSession ⟨registers, different⟩)
          · exact .inl (compatible_of_changes valid keyed changes otherChanges sameName describes
              otherDescribes _ _)

end Courses

end Http

end ServiceGroups
