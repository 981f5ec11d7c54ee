import ServiceGroups.Proofs.Http.Reachable
import ServiceGroups.Proofs.Http.Success

/-!
# Error responses are clean

A request that is not answered with success leaves the store as it was, a client
error is answered without any call of the scheduler, and a write on a group is
answered with success only when the whole sequence of its operation was granted
for that group, as the request and the store say what it is.
-/

namespace ServiceGroups

namespace Http

theorem Denial.failed_orchestrator_status (step : String) (reason : Failure) :
    (Denial.failed (.orchestrator step reason)).response.status = 502 :=
  rfl

theorem Plan.Arises.write_isSuccess {moment : Moment} {store : Store} {call : StoreCall}
    {response : Response} (arises : (Plan.write call response).Arises moment store) :
    response.isSuccess = true := by
  cases arises <;> rfl

theorem Plan.Arises.change_isSuccess {moment : Moment} {store : Store} {operation : Operation}
    {session : Session} {group : Group} {call : StoreCall} {response : Response}
    (arises : (Plan.change operation session group call response).Arises moment store) :
    response.isSuccess = true := by
  cases arises <;> rfl

theorem Response.not_client_error {response : Response} (success : response.isSuccess = true) :
    ¬ 400 ≤ response.status := by
  simp only [Response.isSuccess, Bool.and_eq_true, decide_eq_true_eq] at success
  omega

namespace Effect

variable {σ : Type} {release : String} {scheduler : Scheduler σ} {store : Store} {state : σ}
variable {plan : Plan} {outcome : Outcome (Except Denial Response) σ} {moment : Moment}

theorem store_eq_of_not_success (effect : Effect release scheduler store state plan outcome)
    (arises : plan.Arises moment store)
    (notSuccess : (responseOf outcome.result).isSuccess = false) : outcome.store = store := by
  cases effect with
  | settled result => rfl
  | denied _ failure => rfl
  | wrote performed =>
      exact absurd (notSuccess.symm.trans arises.write_isSuccess) (by decide)
  | stopped _ step refusal calls => rfl
  | changed provides describes completes performed =>
      exact absurd (notSuccess.symm.trans arises.change_isSuccess) (by decide)

theorem calls_eq_nil_of_client_error
    (effect : Effect release scheduler store state plan outcome)
    (arises : plan.Arises moment store)
    (atLeast : 400 ≤ (responseOf outcome.result).status)
    (below : (responseOf outcome.result).status < 500) : outcome.calls = [] := by
  cases effect with
  | settled result => rfl
  | denied _ failure => rfl
  | wrote performed => rfl
  | stopped _ step refusal calls =>
      simp only [responseOf, Denial.failed_orchestrator_status] at below
      omega
  | changed provides describes completes performed =>
      exact absurd atLeast (Response.not_client_error arises.change_isSuccess)

end Effect

namespace Service

variable (service : Service) (moment : Moment) (request : Request)

variable {σ : Type} {scheduler : Scheduler σ} {store : Store} {state : σ}
  {outcome : Outcome Response σ}

/-- A request without success leaves no trace in the store, and with a client error none in the
calls. -/
theorem traces_of_run
    (ran : outcome = (service.handle moment request).run scheduler store state)
    (keyed : store.Keyed) :
    (outcome.result.isSuccess = false → outcome.store = store) ∧
      (400 ≤ outcome.result.status → outcome.result.status < 500 → outcome.calls = []) := by
  have arises := (service.task moment request).plan_arises moment store
  have effect := arises.effect scheduler state keyed service.release
  rw [service.run_handle moment request scheduler store state, outcome_task] at ran
  generalize Action.outcome scheduler store state
    (((service.task moment request).plan moment store).handling service.release) =
    left at effect ran
  rw [ran]
  simp only [Outcome.map, finish_isSuccess, finish_status]
  exact ⟨effect.store_eq_of_not_success arises, effect.calls_eq_nil_of_client_error arises⟩

theorem isGuarded_of_ofRequest? {route : Route} {operation : Operation}
    (about : Operation.ofRequest? request.method route = some operation) :
    route.isGuarded = true := by
  cases route with
  | openHealth => cases about
  | _ => rfl

/-- A write on groups that succeeds has carried out its operation for the group that the request
is about. -/
theorem completed_of_run {route : Route} {operation : Operation}
    (ran : outcome = (service.handle moment request).run scheduler store state)
    (keyed : store.Keyed) (onRoute : service.route? request = some route)
    (about : Operation.ofRequest? request.method route = some operation)
    (succeeds : outcome.result.isSuccess = true) :
    ∃ task session group call,
      service.Spells request route operation task ∧
      task.Changes moment store operation session group call ∧
      operation.Granted service.release scheduler store session group state outcome.state
        outcome.calls ∧
      outcome.store = operation.leaves store session group ∧
      outcome.result.status = (operation.response group).status ∧
      outcome.result.body = (operation.response group).body := by
  rw [ran] at succeeds
  obtain ⟨-, read, carried⟩ := readTask_of_success onRoute
    (isGuarded_of_ofRequest? request about) succeeds
  have spells := spells_of_readTask about read
  obtain ⟨session, group, call, changes, granted, left, written⟩ :=
    carried.changed spells.operation?_eq keyed
  obtain ⟨status, body⟩ := responds_of_written onRoute spells.method_ne rfl written
  rw [← ran] at status body
  rw [handle_run_eq, Outcome.map] at ran
  subst ran
  exact ⟨_, session, group, call, spells, changes, granted, left, status, body⟩

/-- On every store that can arise, a request handled alone that is not answered with success
leaves the store as it was, and a client error is answered without any call of the scheduler.
A write on groups is answered with success only when the scheduler has granted the whole sequence
of its operation for the job of one group, of the session of the request: a created group is as
the body drafts it, an updated one is the stored one as the body changes it, and a deleted one is
the stored one.  This group is what the store has afterwards, or has no longer, and what the
response shows. -/
theorem error_responses_are_clean {σ : Type} {store : Store} (reachable : Reachable store)
    (scheduler : Scheduler σ) (state : σ) :
    let outcome := (service.handle moment request).run scheduler store state
    (outcome.result.isSuccess = false → outcome.store = store) ∧
      (400 ≤ outcome.result.status → outcome.result.status < 500 → outcome.calls = []) ∧
      ∀ route operation, service.route? request = some route →
        Operation.ofRequest? request.method route = some operation →
        outcome.result.isSuccess = true →
        ∃ task session group call,
          service.Spells request route operation task ∧
          task.Changes moment store operation session group call ∧
          operation.Granted service.release scheduler store session group state outcome.state
            outcome.calls ∧
          outcome.store = operation.leaves store session group ∧
          outcome.result.status = (operation.response group).status ∧
          outcome.result.body = (operation.response group).body := by
  intro outcome
  have ran : outcome = (service.handle moment request).run scheduler store state := rfl
  obtain ⟨untouched, uncalled⟩ := service.traces_of_run moment request ran reachable.keyed
  refine ⟨untouched, uncalled, ?_⟩
  intro route operation onRoute about succeeds
  exact service.completed_of_run moment request ran reachable.keyed onRoute about succeeds

end Service

namespace Sample

/-- What the deletion leaves where the tenant has no group, and the scheduler refuses all. -/
def afterVainDeletion : Outcome Response Unit :=
  (service.handle (moment 9) groupDeletion).run refusing twoTenants ()

end Sample

open Sample in
/-- Deleting a group that is not there is such a client error.  Deleting one that is there
succeeds once the sequence for this group is granted. -/
theorem group_deletions_are_clean :
    (Reachable twoTenants ∧ afterVainDeletion.result.status = 404 ∧
        afterVainDeletion.store = twoTenants ∧ afterVainDeletion.calls = []) ∧
      Reachable withGroup ∧ afterGroupDeletion.result.status = 204 ∧
        ∃ (session : Session) (group : Group),
          withGroup.groups.find? (session.accountId, "web") = some group ∧
          Operation.delete.Granted service.release granting withGroup session group ()
            afterGroupDeletion.state afterGroupDeletion.calls ∧
          afterGroupDeletion.store = Operation.delete.leaves withGroup session group := by
  have reachable : Reachable twoTenants := .holding _
  have missing : afterVainDeletion.result.status = 404 := by decide +kernel
  have succeeds : afterGroupDeletion.result.isSuccess = true := by decide +kernel
  have spelled : readSegment "web" = .ok "web" := by decide +kernel
  rw [afterVainDeletion] at missing ⊢
  rw [afterGroupDeletion] at succeeds ⊢
  obtain ⟨untouched, uncalled, -⟩ := Service.error_responses_are_clean service (moment 9)
    groupDeletion reachable refusing ()
  obtain ⟨-, -, completed⟩ := Service.error_responses_are_clean service (moment 9) groupDeletion
    reachable_withGroup granting ()
  obtain ⟨task, session, group, call, spells, changes, granted, left, status, -⟩ :=
    completed (.group "web") .delete (by decide +kernel) rfl succeeds
  refine ⟨⟨reachable, missing, untouched ?_, uncalled ?_ ?_⟩, reachable_withGroup, status,
    session, group, ?_, granted, left⟩
  any_goals
    simp only [Response.isSuccess, missing]
    decide
  cases spells with
  | deletes _ _ named =>
      cases spelled.symm.trans named
      cases changes with
      | deletes _ _ _ found => exact found

end Http

end ServiceGroups
