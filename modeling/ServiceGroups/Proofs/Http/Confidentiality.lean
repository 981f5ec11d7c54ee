import ServiceGroups.Proofs.Http.Transition

/-!
# What an account can see of others

Two stores that agree for an account are indistinguishable to it, but for one
request.  A request of the account plans the same on both, its operation on a job
reads only the account's rows, and its write has the same reply on both.  Deleting
a template, however, asks first whether any group uses it, so that a template of
another account is missing or in use as that account's groups would have it.
-/

namespace ServiceGroups

/-- The same outcome over another store. -/
def Outcome.over {α σ : Type} (store : Store) (outcome : Outcome α σ) : Outcome α σ :=
  { outcome with store := store }

namespace Action

variable {σ ε α β : Type} {scheduler : Scheduler σ} {first second : Store}

/-- The action leaves the first store alone, and on the second it goes the same
way. -/
def SameOn (scheduler : Scheduler σ) (first second : Store) (action : Action ε α) : Prop :=
  ∀ state, (outcome scheduler first state action).store = first ∧
    outcome scheduler second state action = (outcome scheduler first state action).over second

theorem SameOn.bind {action : Action ε α} {next : α → Action ε β}
    (same : SameOn scheduler first second action)
    (rest : ∀ state value, (outcome scheduler first state action).result = .ok value →
      SameOn scheduler first second (next value)) :
    SameOn scheduler first second (action >>= next) := by
  intro state
  obtain ⟨kept, moved⟩ := same state
  rw [outcome_bind, outcome_bind, moved]
  generalize ran : outcome scheduler first state action = ended at kept
  obtain ⟨result, store, final, calls⟩ := ended
  cases result with
  | error failure => exact ⟨kept, rfl⟩
  | ok value =>
      obtain rfl : store = first := kept
      obtain ⟨keptNext, movedNext⟩ := rest state value (by rw [ran]) final
      refine ⟨keptNext, ?_⟩
      simp only [Outcome.thenDo_ok, Outcome.over] at movedNext ⊢
      rw [movedNext]
      rfl

theorem SameOn.pure (value : α) :
    SameOn scheduler first second (Pure.pure value : Action ε α) :=
  fun _ => ⟨rfl, rfl⟩

theorem SameOn.require (failure : ε) (value : Option α) :
    SameOn scheduler first second (Action.require failure value) := by
  cases value <;> exact fun _ => ⟨rfl, rfl⟩

theorem eq_some_of_require {failure : ε} {found : Option α} {state : σ} {value : α}
    (had : (outcome scheduler first state (Action.require failure found)).result =
      .ok value) : found = some value := by
  cases found with
  | none => cases had
  | some _ =>
      cases had
      rfl

theorem SameOn.askStore {call : StoreCall} {reply : Except Failure call.Reply}
    (left : first.perform call = (reply, first)) (right : second.perform call = (reply, second)) :
    SameOn scheduler first second (ServiceGroups.askStore call) := by
  intro state
  rw [outcome_askStore, outcome_askStore, left, right]
  exact ⟨rfl, rfl⟩

theorem SameOn.step (name : String) (call : JobsCall) :
    SameOn scheduler first second (Orchestrator.step name call) := by
  intro state
  rw [Orchestrator.outcome_step, Orchestrator.outcome_step]
  exact ⟨rfl, rfl⟩

theorem SameOn.follow (stages : List Stage) :
    SameOn scheduler first second (Orchestrator.follow stages) := by
  induction stages with
  | nil => exact .pure ()
  | cons stage rest ih => exact (SameOn.step stage.name stage.call).bind fun _ _ _ => ih

end Action

/-- An operation for an account depends on the rows of the account alone. -/
theorem Operation.action_sameOn {σ : Type} (scheduler : Scheduler σ) {first second : Store}
    {session : Session} (agree : Store.AgreeFor session.accountId first second)
    (keyed : first.Keyed) (operation : Operation) (release : String) (group : Group) :
    (operation.action release session group).SameOn scheduler first second := by
  rw [action_eq]
  -- Each lookup is made for the account of the session.
  have findTemplate : (Orchestrator.findTemplate session group).SameOn scheduler first second := by
    refine (Action.SameOn.askStore (first.perform_template _ _) ?_).bind fun _ _ _ =>
      .require _ _
    rw [agree.template]
    rfl
  refine findTemplate.bind fun _ template _ => ?_
  have jobDetails (group : Group) :
      (Orchestrator.jobDetails release session template group).SameOn scheduler first second := by
    refine (Action.SameOn.askStore (first.perform_account _) ?_).bind fun _ found read => ?_
    · rw [agree.account]
      rfl
    · refine (Action.SameOn.require _ _).bind fun _ account had => ?_
      have present := Action.eq_some_of_require had
      cases read
      have own : account.id = session.accountId := keyed.accounts _ account present
      rw [own]
      refine (Action.SameOn.askStore (first.perform_credential _) ?_).bind fun _ _ _ =>
        (Action.SameOn.require _ _).bind fun _ _ _ => .pure _
      rw [agree.credential]
      rfl
  have prepareJob (group : Group) :
      (Orchestrator.prepareJob release session template group).SameOn scheduler first second :=
    (jobDetails group).bind fun _ details _ => .step "parse nomad job" (.parse details.render)
  exact (prepareJob _).bind fun _ job _ => .follow (operation.stages job)

namespace Http

section Requests

variable {owner : AccountId} {moment : Moment} {first second : Store}

theorem Task.plan_eq_of_agree (agree : Store.AgreeFor owner first second)
    (firstKeyed : first.Keyed) (secondKeyed : second.Keyed) {task : Task}
    (isFor : task.IsFor owner) : task.plan moment first = task.plan moment second := by
  cases task with
  | settled result => rfl
  | listGroups session page =>
      obtain rfl := isFor session rfl
      simp only [plan, agree.groupsOf firstKeyed secondKeyed]
  | createGroup session draft =>
      obtain rfl := isFor session rfl
      simp only [plan, createGroupPlan, agree.group]
  | showGroup session name =>
      obtain rfl := isFor session rfl
      simp only [plan, withGroup, agree.group]
  | updateGroup session name change =>
      obtain rfl := isFor session rfl
      simp only [plan, updateGroupPlan, withGroup, agree.group]
  | deleteGroup session name =>
      obtain rfl := isFor session rfl
      simp only [plan, withGroup, agree.group]
  | listTemplates session page =>
      obtain rfl := isFor session rfl
      simp only [plan, agree.templatesOf firstKeyed secondKeyed]
  | createTemplate session draft => rfl
  | showTemplate session id =>
      obtain rfl := isFor session rfl
      simp only [plan, agree.template]
  | deleteTemplate session id => rfl

/-- The write of a plan, if it has one. -/
def Plan.call? : Plan → Option StoreCall
  | settle _ => none
  | write call _ => some call
  | change _ _ _ call _ => some call

section Plans

variable {σ : Type} (scheduler : Scheduler σ) (state : σ)

/-- Two outcomes that the account cannot tell apart. -/
structure Indistinguishable (owner : AccountId) (one other : Outcome α σ) : Prop where
  result : one.result = other.result
  state : one.state = other.state
  calls : one.calls = other.calls
  store : Store.AgreeFor owner one.store other.store

theorem Indistinguishable.map {one other : Outcome α σ}
    (same : Indistinguishable owner one other) (change : α → β) :
    Indistinguishable owner (one.map change) (other.map change) :=
  ⟨congrArg change same.result, same.state, same.calls, same.store⟩

/-- Carrying out a plan for an account has outcomes that the account cannot tell
apart, if the write of the plan asks nothing about other accounts that has
different answers. -/
theorem Plan.outcome_indistinguishable (agree : Store.AgreeFor owner first second)
    (firstKeyed : first.Keyed) (secondKeyed : second.Keyed) (release : String) {plan : Plan}
    (isFor : plan.IsFor owner)
    (alike : ∀ call, plan.call? = some call → first.AnswerAlike second call) :
    Indistinguishable owner (Action.outcome scheduler first state (plan.handling release))
      (Action.outcome scheduler second state (plan.handling release)) := by
  cases plan with
  | settle result => exact ⟨rfl, rfl, rfl, agree⟩
  | write call response =>
      obtain ⟨reply, stores⟩ := agree.perform firstKeyed secondKeyed call isFor (alike call rfl)
      rw [outcome_write, outcome_write]
      exact ⟨by simp only [reply], rfl, rfl, stores⟩
  | change operation session group call response =>
      obtain ⟨reply, stores⟩ := agree.perform firstKeyed secondKeyed call isFor.2
        (alike call rfl)
      have ends := Operation.action_ends scheduler first state operation release session group
      -- The operation goes the same way on both stores, and the write after it has the
      -- same reply.
      have moved := (Operation.action_sameOn scheduler (isFor.1 ▸ agree) firstKeyed operation
        release group state).2
      generalize run : Action.outcome scheduler first state
        (operation.action release session group) = outcome at ends moved
      cases ends with
      | missing what =>
          rw [outcome_change_of_error scheduler first state release run,
            outcome_change_of_error scheduler second state release moved]
          exact ⟨rfl, rfl, rfl, agree⟩
      | refused step refusal calls =>
          rw [outcome_change_of_error scheduler first state release run,
            outcome_change_of_error scheduler second state release moved]
          exact ⟨rfl, rfl, rfl, agree⟩
      | completed provides describes completes =>
          rw [outcome_change_of_ok scheduler first state release run,
            outcome_change_of_ok scheduler second state release moved]
          exact ⟨by simp only [reply], rfl, rfl, stores⟩

end Plans

theorem Task.call?_withGroup {store : Store} {session : Session} {name : String}
    {next : Group → Plan} {call : StoreCall}
    (writes : (withGroup store session name next).call? = some call) :
    ∃ group, (next group).call? = some call := by
  unfold withGroup at writes
  split at writes
  · cases writes
  · exact ⟨_, writes⟩

/-- What the write of a plan asks about other accounts has the same answers in both
stores, but for the use of a template that is deleted. -/
theorem Task.plan_answerAlike (firstFresh : first.templates.find? moment.freshId = none)
    (secondFresh : second.templates.find? moment.freshId = none) {task : Task}
    (sameUse : ∀ session id, task = .deleteTemplate session id →
      first.templateInUse id = second.templateInUse id) {call : StoreCall}
    (writes : (task.plan moment first).call? = some call) : first.AnswerAlike second call := by
  cases task with
  | settled | listGroups | listTemplates => cases writes
  | createGroup session draft =>
      rw [plan, createGroupPlan] at writes
      split at writes
      · cases writes
      · split at writes
        · cases writes
        · split at writes
          · cases writes
          · cases writes
            trivial
  | showGroup session name =>
      obtain ⟨group, written⟩ := call?_withGroup writes
      cases written
  | updateGroup session name change =>
      rw [plan, updateGroupPlan] at writes
      split at writes
      · cases writes
      · obtain ⟨group, written⟩ := call?_withGroup writes
        cases written
        trivial
  | deleteGroup session name =>
      obtain ⟨group, written⟩ := call?_withGroup writes
      cases written
      trivial
  | createTemplate session draft =>
      rw [plan, createTemplatePlan] at writes
      split at writes
      · cases writes
      · cases writes
        have same : (draft.template moment session).id = moment.freshId := rfl
        simp only [Store.AnswerAlike, Store.takenByOther, same, firstFresh, secondFresh]
  | showTemplate session id =>
      rw [plan] at writes
      split at writes <;> cases writes
  | deleteTemplate session id =>
      cases writes
      exact sameUse session id rfl

theorem perform_deleteTemplate_of_missing {store : Store} {id : Uuid}
    (missing : (store.templates.find? id).any (·.accountId = owner) = false) :
    store.perform (.deleteTemplate owner id) =
      (.error (if store.templateInUse id then
          .conflict ("template " ++ id.text ++ " is used by a service group")
        else .notFound ("template " ++ id.text)), store) := by
  cases used : store.templateInUse id <;>
    simp [Store.perform, Store.precheck, Store.commit, Store.dropTemplate, used, missing]

namespace Service

variable (service : Service) (moment : Moment) (request : Request)
variable {σ : Type} (scheduler : Scheduler σ) (state : σ)

/-- Deleting a template that is not the account's changes nothing, but its answer
tells whether a group uses the template. -/
theorem delete_of_missing_template {store : Store} {session : Session} {id : Uuid}
    (deletes : service.task moment request = .deleteTemplate session id)
    (missing : (store.templates.find? id).any (·.accountId = session.accountId) = false) :
    ∃ response : Response,
      (service.handle moment request).run scheduler store state = ⟨response, store, state, []⟩ ∧
        response.status = if store.templateInUse id then 409 else 404 := by
  have run := service.run_handle moment request scheduler store state
  rw [outcome_task, deletes, Task.plan, outcome_write,
    perform_deleteTemplate_of_missing missing, Outcome.map_mk] at run
  refine ⟨_, run, ?_⟩
  rw [finish_status]
  cases store.templateInUse id <;> rfl

/-- An account that deletes a template used in one store and unused in another is
answered differently, but nothing else differs. -/
theorem delete_of_template_in_use_elsewhere (firstServed : Served first)
    (secondServed : Served second) (agree : Store.AgreeFor owner first second)
    {session : Session} {id : Uuid} (own : session.accountId = owner)
    (deletes : service.task moment request = .deleteTemplate session id)
    (differs : first.templateInUse id ≠ second.templateInUse id) :
    let one := (service.handle moment request).run scheduler first state
    let other := (service.handle moment request).run scheduler second state
    one.state = other.state ∧ one.calls = other.calls ∧
      Store.AgreeFor owner one.store other.store ∧ one.result.status ≠ other.result.status := by
  subst own
  intro one other
  -- A template of the account itself would be in use in both stores or in neither.
  have firstMissing :
      (first.templates.find? id).any (·.accountId = session.accountId) = false := by
    refine Bool.eq_false_iff.mpr fun present => differs ?_
    obtain ⟨template, found, own⟩ := Option.any_eq_true _ _ |>.mp present
    exact agree.templateInUse_of_own firstServed.keyed secondServed.keyed firstServed.supplied
      secondServed.supplied found (by simpa using own)
  have secondMissing := (agree.any_template id).symm.trans firstMissing
  obtain ⟨left, oneRun, leftStatus⟩ :=
    service.delete_of_missing_template moment request scheduler state deletes firstMissing
  obtain ⟨right, otherRun, rightStatus⟩ :=
    service.delete_of_missing_template moment request scheduler state deletes secondMissing
  have oneEnds : one = ⟨left, first, state, []⟩ := oneRun
  have otherEnds : other = ⟨right, second, state, []⟩ := otherRun
  rw [oneEnds, otherEnds]
  refine ⟨rfl, rfl, agree, ?_⟩
  simp only [leftStatus, rightStatus]
  cases used : first.templateInUse id <;> cases usedToo : second.templateInUse id <;>
    simp [used, usedToo] at differs ⊢

/-- An account's request on two served stores that agree for the account makes the
same calls of the scheduler and leaves the account's rows the same.  It is answered
alike too, unless it deletes a template that a group uses in one of the stores and
no group uses in the other. -/
theorem confidential_but_for_templates_in_use (firstServed : Served first)
    (secondServed : Served second) (agree : Store.AgreeFor owner first second)
    (carries : requestAccount request.headers = .ok owner)
    (firstFresh : first.templates.find? moment.freshId = none)
    (secondFresh : second.templates.find? moment.freshId = none) :
    let one := (service.handle moment request).run scheduler first state
    let other := (service.handle moment request).run scheduler second state
    one.state = other.state ∧ one.calls = other.calls ∧
      Store.AgreeFor owner one.store other.store ∧
      (one.result = other.result ↔ ∀ session id,
        service.task moment request = .deleteTemplate session id →
        first.templateInUse id = second.templateInUse id) := by
  intro one other
  have isFor := service.task_isFor moment request carries
  by_cases sameUse : ∀ session id, service.task moment request = .deleteTemplate session id →
      first.templateInUse id = second.templateInUse id
  · have left : one = _ := service.run_handle moment request scheduler first state
    have right : other = _ := service.run_handle moment request scheduler second state
    rw [outcome_task] at left right
    rw [← Task.plan_eq_of_agree agree firstServed.keyed secondServed.keyed isFor] at right
    have plans := Plan.outcome_indistinguishable scheduler state agree firstServed.keyed
      secondServed.keyed service.release
      (Task.plan_isFor moment firstServed.keyed isFor)
      (fun call writes => Task.plan_answerAlike firstFresh secondFresh sameUse writes)
    have same := plans.map fun result => service.finish moment request (responseOf result)
    rw [← left, ← right] at same
    exact ⟨same.state, same.calls, same.store, iff_of_true same.result sameUse⟩
  · push Not at sameUse
    obtain ⟨session, id, deletes, differs⟩ := sameUse
    have own : session.accountId = owner := isFor session (by rw [deletes]; rfl)
    obtain ⟨sameState, sameCalls, sameRows, statuses⟩ :=
      service.delete_of_template_in_use_elsewhere moment request scheduler state firstServed
        secondServed agree own deletes differs
    refine ⟨sameState, sameCalls, sameRows, iff_of_false ?_ ?_⟩
    · intro equal
      exact statuses (congrArg Response.status equal)
    · intro alike
      exact differs (alike session id deletes)

end Service

end Requests

namespace Sample

/-- The account of the second of two tenants. -/
def stranger : AccountId :=
  ⟨⟨2⟩⟩

/-- The second tenant deletes the template. -/
def deletion : Request :=
  request 2 "DELETE" ("/v1/templates/" ++ (Uuid.mk 7).text) ""

/-- What the deletion leaves of a store. -/
def afterDeletion (store : Store) : Outcome Response Unit :=
  (service.handle (moment 9) deletion).run granting store ()

theorem served_twoTenants : Served twoTenants :=
  .start (Store.onlyAccounts_holding _)

theorem served_withTemplate : Served withTemplate :=
  served_twoTenants.request _ _ _ _ _

theorem served_withGroup : Served withGroup :=
  served_withTemplate.request _ _ _ _ _

/-- What the first tenant has made is nothing to the second. -/
theorem agreeFor_stranger : Store.AgreeFor stranger withGroup twoTenants := by
  have others : stranger ≠ ⟨⟨1⟩⟩ := by decide
  have carriesTemplate : requestAccount templateRequest.headers = .ok ⟨⟨1⟩⟩ := by
    decide +kernel
  have carriesGroup : requestAccount groupRequest.headers = .ok ⟨⟨1⟩⟩ := carriesTemplate
  have template : Store.AgreeFor stranger twoTenants withTemplate :=
    service.handle_agreeFor_other (moment 7) templateRequest granting ()
      served_twoTenants.keyed carriesTemplate others
  have group : Store.AgreeFor stranger withTemplate withGroup :=
    service.handle_agreeFor_other (moment 8) groupRequest granting ()
      served_withTemplate.keyed carriesGroup others
  exact (template.trans group).symm

theorem fresh_withGroup : withGroup.templates.find? (moment 9).freshId = none := by
  decide +kernel

theorem fresh_twoTenants : twoTenants.templates.find? (moment 9).freshId = none := by
  have noTemplates := (Store.onlyAccounts_holding [tenant 1, tenant 2]).noTemplates
  rw [twoTenants, noTemplates]
  rfl

theorem requestAccount_deletion : requestAccount deletion.headers = .ok stranger := by
  decide +kernel

theorem status_withGroup : (afterDeletion withGroup).result.status = 409 := by
  decide +kernel

theorem status_twoTenants : (afterDeletion twoTenants).result.status = 404 := by
  decide +kernel

end Sample

namespace Service

open Sample in
/-- Deleting another tenant's template is such a request. -/
theorem deletion_differs_in_the_answer_alone :
    Served withGroup ∧ Served twoTenants ∧ Store.AgreeFor stranger withGroup twoTenants ∧
      (afterDeletion withGroup).calls = (afterDeletion twoTenants).calls ∧
      Store.AgreeFor stranger (afterDeletion withGroup).store (afterDeletion twoTenants).store ∧
      (afterDeletion withGroup).result.status = 409 ∧
      (afterDeletion twoTenants).result.status = 404 := by
  obtain ⟨-, calls, rows, -⟩ :=
    confidential_but_for_templates_in_use service (moment 9) deletion granting ()
      served_withGroup served_twoTenants agreeFor_stranger requestAccount_deletion
      fresh_withGroup fresh_twoTenants
  exact ⟨served_withGroup, served_twoTenants, agreeFor_stranger, calls, rows,
    status_withGroup, status_twoTenants⟩

open Sample in
/-- Served stores that agree for an account can be told apart by it. -/
theorem answers_depend_on_other_accounts :
    ¬ ∀ (service : Service) (moment : Moment) (request : Request) (scheduler : Scheduler Unit)
        (owner : AccountId) (first second : Store),
      Served first → Served second → Store.AgreeFor owner first second →
      requestAccount request.headers = .ok owner →
      first.templates.find? moment.freshId = none →
      second.templates.find? moment.freshId = none →
      ((service.handle moment request).run scheduler first ()).result =
        ((service.handle moment request).run scheduler second ()).result := by
  intro confidential
  have same : (afterDeletion withGroup).result = (afterDeletion twoTenants).result :=
    confidential service (moment 9) deletion granting stranger withGroup twoTenants
      served_withGroup served_twoTenants agreeFor_stranger requestAccount_deletion
      fresh_withGroup fresh_twoTenants
  have conflict := status_withGroup
  rw [same, status_twoTenants] at conflict
  exact absurd conflict (by decide)

end Service

end Http

end ServiceGroups
