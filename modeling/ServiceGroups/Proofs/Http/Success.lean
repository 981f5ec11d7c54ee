import ServiceGroups.Proofs.Except
import ServiceGroups.Proofs.Http.Effect
import ServiceGroups.Proofs.Http.Guard

/-!
# What success tells

A denial is never a success.  A request that is answered with success was therefore let in and
read, and what it asks for has been carried out to its end: if that is an operation on a group,
the scheduler has granted the whole sequence for this group before the group was written, and
the response is about the same group.
-/

namespace ServiceGroups

/-- The operation that a write on groups stands for. -/
def Operation.ofRequest? (method : String) : Http.Route → Option Operation
  | .groups => if method = "POST" then some submit else none
  | .group _ =>
    if method = "PUT" then some update else if method = "DELETE" then some delete else none
  | _ => none

/-- The scheduler has granted the whole sequence of an operation for the job of the group. -/
def Operation.Granted {σ : Type} (operation : Operation) (release : String)
    (scheduler : Scheduler σ) (store : Store) (session : Session) (group : Group)
    (state final : σ) (calls : List JobsCall) : Prop :=
  ∃ template account credential, ∃ details : Job.Details,
    store.Provides session group template account credential ∧
    details.Describes release session group.name (operation.count group) template account
      credential ∧
    scheduler.Completes operation details.render state final calls

namespace Http

theorem Denial.response_isSuccess (denial : Denial) : denial.response.isSuccess = false := by
  cases denial with
  | refused refusal =>
      cases refusal with
      | failed failure => cases failure <;> rfl
      | _ => rfl
  | unreadable reason => cases reason <;> rfl

theorem Denial.not_success {denial : Denial} (success : denial.response.isSuccess = true) :
    False := by
  rw [denial.response_isSuccess] at success
  cases success

section Tasks

variable {σ : Type} {scheduler : Scheduler σ} {store : Store} {state : σ} {release : String}
variable {moment : Moment} {task : Task} {operation : Operation}

/-- What carrying out a task leaves. -/
def Task.outcome (release : String) (moment : Moment) (scheduler : Scheduler σ) (store : Store)
    (state : σ) (task : Task) : Outcome (Except Denial Response) σ :=
  Action.outcome scheduler store state (task.handling release moment)

/-- The task is carried out with success. -/
def Task.Succeeds (release : String) (moment : Moment) (scheduler : Scheduler σ) (store : Store)
    (state : σ) (task : Task) : Prop :=
  (responseOf (task.outcome release moment scheduler store state).result).isSuccess = true

theorem Task.not_succeeds {denial : Denial} (denied : task.plan moment store = .deny denial) :
    ¬ task.Succeeds release moment scheduler store state := by
  intro succeeds
  rw [Succeeds, outcome, outcome_task, denied] at succeeds
  exact Denial.not_success succeeds

/-- A plan with an operation succeeds only by the whole sequence of the operation, and then by
its write. -/
theorem Plan.Arises.granted_of_change {session : Session} {group : Group} {call : StoreCall}
    {response : Response} {outcome : Outcome (Except Denial Response) σ}
    (arises : (Plan.change operation session group call response).Arises moment store)
    (keyed : store.Keyed)
    (run : outcome = Action.outcome scheduler store state
      ((Plan.change operation session group call response).handling release))
    (succeeds : (responseOf outcome.result).isSuccess = true) :
    operation.Granted release scheduler store session group state outcome.state outcome.calls ∧
      outcome.store = operation.leaves store session group ∧
      outcome.result = .ok (operation.response group) := by
  have effect := arises.effect scheduler state keyed release
  rw [← run] at effect
  clear run
  cases effect with
  | denied _ failure => exact (Denial.not_success succeeds).elim
  | stopped _ step refusal calls => exact (Denial.not_success succeeds).elim
  | changed provides describes completes performed =>
      obtain ⟨_, accepted⟩ := arises.accepted keyed provides.holder
      exact ⟨⟨_, _, _, _, provides, describes, completes⟩,
        congrArg Prod.snd (performed.symm.trans accepted), congrArg _ arises.response_eq⟩

theorem Plan.Arises.performed_of_write {call : StoreCall} {response : Response}
    (arises : (Plan.write call response).Arises moment store) (keyed : store.Keyed)
    (succeeds : (responseOf (Action.outcome scheduler store state
      ((Plan.write call response).handling release)).result).isSuccess = true) :
    ∃ reply next, Action.outcome scheduler store state
        ((Plan.write call response).handling release) = ⟨.ok response, next, state, []⟩ ∧
      store.perform call = (.ok reply, next) := by
  have effect := arises.effect scheduler state keyed release
  generalize Action.outcome scheduler store state
    ((Plan.write call response).handling release) = outcome at effect succeeds ⊢
  cases effect with
  | denied _ failure => exact (Denial.not_success succeeds).elim
  | stopped _ step refusal calls => exact (Denial.not_success succeeds).elim
  | wrote performed => exact ⟨_, _, rfl, performed⟩

/-- A task about an operation succeeds only by changing the group that it names: the operation
is granted for this group, which is then written or removed and shown in the response. -/
theorem Task.Succeeds.changed (succeeds : task.Succeeds release moment scheduler store state)
    (about : task.operation? = some operation) (keyed : store.Keyed) :
    ∃ session group call, task.Changes moment store operation session group call ∧
      let outcome := task.outcome release moment scheduler store state
      operation.Granted release scheduler store session group state outcome.state outcome.calls ∧
        outcome.store = operation.leaves store session group ∧
        outcome.result = .ok (operation.response group) := by
  have arises := task.plan_arises moment store
  have run := outcome_task scheduler store state release moment task
  rcases task.plan_cases moment store with
    ⟨result, planned, onlyDenied⟩ | ⟨other, session, group, call, response, planned, changes⟩ |
      ⟨call, response, -, writes⟩
  · obtain ⟨denial, rfl⟩ := onlyDenied (by rw [about]; nofun)
    exact (not_succeeds planned succeeds).elim
  · obtain rfl : operation = other := Option.some.inj (about.symm.trans changes.operation?_eq)
    rw [planned] at arises run
    exact ⟨session, group, call, changes, arises.granted_of_change keyed run succeeds⟩
  · rw [writes.operation?_eq] at about
    cases about

end Tasks

namespace Service

variable {σ : Type} {scheduler : Scheduler σ} {store : Store} {state : σ}
variable {service : Service} {moment : Moment} {request : Request} {route : Route}

theorem handle_run_eq :
    (service.handle moment request).run scheduler store state =
      ((service.task moment request).outcome service.release moment scheduler store state).map
        fun result => service.finish moment request (responseOf result) :=
  service.run_handle moment request scheduler store state

/-- A request on a guarded route succeeds only if it could be read. -/
theorem readTask_of_success (leads : service.route? request = some route)
    (guarded : route.isGuarded = true)
    (succeeds : ((service.handle moment request).run scheduler store state).result.isSuccess =
      true) :
    serves route request = true ∧
      service.readTask moment request route = .ok (service.task moment request) ∧
      (service.task moment request).Succeeds service.release moment scheduler store state := by
  have carried : (service.task moment request).Succeeds service.release moment scheduler store
      state := by
    rw [handle_run_eq, Outcome.map, finish_isSuccess] at succeeds
    exact succeeds
  have success {result : Except Denial Response}
      (asks : service.task moment request = .settled result) :
      (responseOf result).isSuccess = true := by
    rw [asks] at carried
    exact carried
  have asks : service.task moment request =
      if service.accepts request then service.innerTask moment request route
      else .settled (.error (.refused .unauthorized)) := by
    rw [task, leads]
    cases accepted : service.accepts request <;> simp [guarded]
  split at asks
  · unfold innerTask at asks
    split at asks
    · next served =>
        refine ⟨served, ?_, carried⟩
        split at asks
        · next task read => rw [read, asks]
        · exact (Denial.not_success (success asks)).elim
    · exact absurd (success asks) (by decide)
  · exact (Denial.not_success (success asks)).elim

/-- What a write on groups asks for, in the words of the request: its session is that of its
headers, the name of the group is the decoded segment, and the draft or the change is its body. -/
inductive Spells (service : Service) (request : Request) : Route → Operation → Task → Prop where
  | creates {session : Session} {draft : GroupDraft} (post : request.method = "POST")
      (carries : requestSession service.defaults request.headers = .ok session)
      (body : readBody GroupDraft request = .ok draft) :
      Spells service request .groups .submit (.createGroup session draft)
  | updates {segment name : String} {session : Session} {change : GroupChange}
      (put : request.method = "PUT")
      (carries : requestSession service.defaults request.headers = .ok session)
      (named : readSegment segment = .ok name)
      (body : readBody GroupChange request = .ok change) :
      Spells service request (.group segment) .update (.updateGroup session name change)
  | deletes {segment name : String} {session : Session} (delete : request.method = "DELETE")
      (carries : requestSession service.defaults request.headers = .ok session)
      (named : readSegment segment = .ok name) :
      Spells service request (.group segment) .delete (.deleteGroup session name)

theorem spells_of_readTask {operation : Operation} {task : Task}
    (about : Operation.ofRequest? request.method route = some operation)
    (read : service.readTask moment request route = .ok task) :
    service.Spells request route operation task := by
  cases route with
  | groups =>
      obtain ⟨session, carries, rest⟩ := bind_mapError_eq_ok read
      obtain ⟨post, same⟩ := Option.ite_none_right_eq_some.mp about
      obtain rfl := Option.some.inj same
      rw [if_pos post] at rest
      obtain ⟨draft, body, rest⟩ := bind_mapError_eq_ok rest
      cases rest
      exact .creates post carries body
  | group segment =>
      obtain ⟨session, carries, rest⟩ := bind_mapError_eq_ok read
      obtain ⟨name, named, rest⟩ := bind_mapError_eq_ok rest
      simp only [Operation.ofRequest?] at about
      split at about
      · next put =>
          obtain rfl := Option.some.inj about
          rw [if_pos put] at rest
          obtain ⟨change, body, rest⟩ := bind_mapError_eq_ok rest
          cases rest
          exact .updates put carries named body
      · next notPut =>
          obtain ⟨delete, same⟩ := Option.ite_none_right_eq_some.mp about
          obtain rfl := Option.some.inj same
          rw [if_neg notPut, if_pos delete] at rest
          cases rest
          exact .deletes delete carries named
  | _ => cases about

theorem Spells.operation?_eq {operation : Operation} {task : Task}
    (spells : service.Spells request route operation task) : task.operation? = some operation := by
  cases spells <;> rfl

theorem Spells.method_ne {operation : Operation} {task : Task}
    (spells : service.Spells request route operation task) : request.method ≠ "HEAD" := by
  cases spells with
  | creates method | updates method | deletes method => simp [method]

/-- The response to a write has the status and the body of its handler's. -/
theorem responds_of_written (leads : service.route? request = some route)
    (writes : request.method ≠ "HEAD") {task : Task}
    (asks : service.task moment request = task) {response : Response}
    (written : (task.outcome service.release moment scheduler store state).result =
      .ok response) :
    ((service.handle moment request).run scheduler store state).result.status = response.status ∧
      ((service.handle moment request).run scheduler store state).result.body =
        response.body := by
  rw [handle_run_eq, asks, Outcome.map, written]
  exact ⟨service.finish_status moment request response,
    (service.finish_body moment request leads response).trans (if_neg writes)⟩

end Service

end Http

end ServiceGroups
