import ServiceGroups.Proofs.Except
import ServiceGroups.Proofs.Http.Effect
import ServiceGroups.Proofs.Store.Tenant

/-!
# For whom a request is carried out

The session of a task is the one that the headers of its request spell, and the
write of its plan is made for the account of that session.  A request therefore
leaves the rows of every account but its own alone.
-/

namespace ServiceGroups

namespace Http

/-- The session that a task is about, unless its answer is settled. -/
def Task.session? : Task → Option Session
  | settled _ => none
  | listGroups session _ => some session
  | createGroup session _ => some session
  | showGroup session _ => some session
  | updateGroup session _ _ => some session
  | deleteGroup session _ => some session
  | listTemplates session _ => some session
  | createTemplate session _ => some session
  | showTemplate session _ => some session
  | deleteTemplate session _ => some session

/-- The task is about rows of the account, if it is about any. -/
def Task.IsFor (owner : AccountId) (task : Task) : Prop :=
  ∀ session, task.session? = some session → session.accountId = owner

/-- The operation and the write of the plan are for the account. -/
def Plan.IsFor (owner : AccountId) : Plan → Prop
  | settle _ => True
  | write call _ => call.owner = owner
  | change _ session _ call _ => session.accountId = owner ∧ call.owner = owner

section Reading

variable (service : Service) (moment : Moment) (request : Request)

/-- A session that is read is one of the account that the headers name. -/
theorem accountId_of_requestSession (defaults : Option CloudSettings) {headers : Headers}
    {owner : AccountId} {session : Session} (carries : requestAccount headers = .ok owner)
    (read : requestSession defaults headers = .ok session) : session.accountId = owner := by
  unfold requestSession at read
  rw [carries] at read
  cases defaults with
  | none => cases read
  | some cloud =>
      cases read
      rfl

/-- The session of a task that is read is the one that the headers spell. -/
theorem Service.readTask_session {route : Route} {task : Task} {session : Session}
    (read : service.readTask moment request route = .ok task)
    (about : task.session? = some session) :
    requestSession service.defaults request.headers = .ok session := by
  cases route with
  | openHealth | health =>
      cases read
      cases about
  | groups | templates =>
      obtain ⟨_, found, rest⟩ := bind_mapError_eq_ok read
      split at rest
      · obtain ⟨_, _, rest⟩ := bind_mapError_eq_ok rest
        cases rest
        cases about
        exact found
      · obtain ⟨_, _, rest⟩ := bind_mapError_eq_ok rest
        cases rest
        cases about
        exact found
  | group segment =>
      obtain ⟨_, found, rest⟩ := bind_mapError_eq_ok read
      obtain ⟨_, _, rest⟩ := bind_mapError_eq_ok rest
      split at rest
      · obtain ⟨_, _, rest⟩ := bind_mapError_eq_ok rest
        cases rest
        cases about
        exact found
      · split at rest <;> cases rest <;> cases about <;> exact found
  | template segment =>
      obtain ⟨_, found, rest⟩ := bind_mapError_eq_ok read
      obtain ⟨_, _, rest⟩ := bind_mapError_eq_ok rest
      split at rest <;> cases rest <;> cases about <;> exact found

theorem Service.task_session {session : Session}
    (about : (service.task moment request).session? = some session) :
    requestSession service.defaults request.headers = .ok session := by
  unfold task at about
  split at about
  · cases about
  · split at about
    · cases about
    · unfold innerTask at about
      split at about
      · split at about
        · next read => exact service.readTask_session moment request read about
        · cases about
      · cases about

/-- The task of a request is for the account that the request names. -/
theorem Service.task_isFor {owner : AccountId}
    (carries : requestAccount request.headers = .ok owner) :
    (service.task moment request).IsFor owner := by
  intro session about
  exact accountId_of_requestSession service.defaults carries
    (service.task_session moment request about)

end Reading

variable {owner : AccountId} {store : Store}

theorem Task.withGroup_isFor {session : Session} {name : String} {next : Group → Plan}
    (isFor : ∀ group, store.groups.find? (session.accountId, name) = some group →
      (next group).IsFor owner) : (withGroup store session name next).IsFor owner := by
  unfold withGroup
  cases found : store.groups.find? (session.accountId, name) with
  | none => trivial
  | some group => exact isFor group found

theorem Task.plan_isFor (moment : Moment) {task : Task} (keyed : store.Keyed)
    (isFor : task.IsFor owner) : (task.plan moment store).IsFor owner := by
  cases task with
  | settled | listGroups | listTemplates => trivial
  | createGroup session draft =>
      have own := isFor session rfl
      rw [plan, createGroupPlan]
      split
      · trivial
      · split
        · trivial
        · split
          · trivial
          · exact ⟨own, own⟩
  | showGroup session name => exact withGroup_isFor fun _ _ => trivial
  | updateGroup session name change =>
      have own := isFor session rfl
      rw [plan, updateGroupPlan]
      split
      · trivial
      · refine withGroup_isFor fun group found => ⟨own, ?_⟩
        have key : group.accountId = session.accountId :=
          congrArg Prod.fst (keyed.groups _ group found)
        exact key.trans own
  | deleteGroup session name =>
      have own := isFor session rfl
      exact withGroup_isFor fun group found => ⟨own, own⟩
  | createTemplate session draft =>
      rw [plan, createTemplatePlan]
      split
      · trivial
      · exact isFor session rfl
  | showTemplate session id =>
      rw [plan]
      split <;> trivial
  | deleteTemplate session id => exact isFor session rfl

theorem Effect.step {σ : Type} {release : String} {scheduler : Scheduler σ} {state : σ}
    {plan : Plan} {outcome : Outcome (Except Denial Response) σ}
    (effect : Effect release scheduler store state plan outcome) (isFor : plan.IsFor owner) :
    store.Step owner outcome.store := by
  cases effect with
  | settled | denied | stopped => exact .unchanged
  | @wrote call response reply next performed =>
      have step := store.perform_step call
      rw [performed, isFor] at step
      exact step
  | @changed operation session group call _ _ _ _ _ _ _ _ _ _ _ _ performed =>
      have step := store.perform_step call
      rw [performed, isFor.2] at step
      exact step

/-- A request takes one step for the account that it names. -/
theorem Service.handle_step (service : Service) (moment : Moment) (request : Request)
    {σ : Type} (scheduler : Scheduler σ) (state : σ) (keyed : store.Keyed)
    (carries : requestAccount request.headers = .ok owner) :
    store.Step owner ((service.handle moment request).run scheduler store state).store := by
  have arises := (service.task moment request).plan_arises moment store
  have effect := arises.effect scheduler state keyed service.release
  have isFor := Task.plan_isFor moment keyed
    (service.task_isFor moment request carries)
  rw [service.run_handle, outcome_task]
  exact effect.step isFor

theorem Service.handle_agreeFor_other (service : Service) (moment : Moment) (request : Request)
    {σ : Type} (scheduler : Scheduler σ) (state : σ) (keyed : store.Keyed)
    (carries : requestAccount request.headers = .ok owner) {other : AccountId}
    (others : other ≠ owner) :
    store.AgreeFor other ((service.handle moment request).run scheduler store state).store :=
  (service.handle_step moment request scheduler state keyed carries).agreeFor_other others

end Http

end ServiceGroups
