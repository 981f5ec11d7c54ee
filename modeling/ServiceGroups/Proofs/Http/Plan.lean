import ServiceGroups.Proofs.Http.Task
import ServiceGroups.Proofs.Operation

/-!
# What a task does to a store

Given the store, a task comes down to a plan of one of three kinds: an answer
without any write, one write of the store, or an operation on the job of a group
and then one write of the store.  Everything that can be checked beforehand is in
the choice of the plan.  Whatever a request does is therefore a matter of three
cases.
-/

namespace ServiceGroups

/-- The response to an operation on a group that is carried out. -/
def Operation.response (group : Group) : Operation → Http.Response
  | submit => .json 201 (Json.encode group)
  | update => .json 200 (Json.encode group)
  | delete => .empty 204

namespace Http

/-- What is left to do for a task once the store has been read. -/
inductive Plan where
  /-- Answer without a write. -/
  | settle (result : Except Denial Response)
  /-- Make one write of the store and answer. -/
  | write (call : StoreCall) (response : Response)
  /-- Carry out an operation on a group's job, make one write, and answer. -/
  | change (operation : Operation) (session : Session) (group : Group) (call : StoreCall)
      (response : Response)

/-- The denial because of a failed operation. -/
def Denial.failed (failure : Failure) : Denial :=
  .refused (.failed failure)

namespace Plan

/-- Carry out a plan. -/
def handling (release : String) : Plan → Handling Response
  | settle result => ExceptT.mk (.done result)
  | write call response => do
    let _ ← Handling.ask call
    return response
  | change operation session group call response => do
    Handling.ofAction (operation.action release session group)
    let _ ← Handling.ask call
    return response

/-- Deny the request. -/
def deny (denial : Denial) : Plan :=
  settle (.error denial)

end Plan

namespace Task

/-- The plan for creating a group. -/
def createGroupPlan (moment : Moment) (store : Store) (session : Session)
    (draft : GroupDraft) : Plan :=
  let name := Text.trim draft.name
  match checkGroupName name with
  | .error refusal => .deny (.refused refusal)
  | .ok () =>
    match checkCapacity draft.capacity with
    | .error refusal => .deny (.refused refusal)
    | .ok () =>
      if (store.groups.find? (session.accountId, name)).isSome then
        .deny (.failed (.conflict ("service group " ++ name ++ " already exists")))
      else
        .change .submit session (draft.group moment session name)
          (.insertGroup (draft.group moment session name))
          (.json 201 (Json.encode (draft.group moment session name)))

/-- The plan for something that is done with an existing group. -/
def withGroup (store : Store) (session : Session) (name : String) (next : Group → Plan) : Plan :=
  match store.groups.find? (session.accountId, name) with
  | none => .deny (.failed (.notFound ("service group " ++ name)))
  | some group => next group

/-- The plan for changing a group. -/
def updateGroupPlan (moment : Moment) (store : Store) (session : Session) (name : String)
    (change : GroupChange) : Plan :=
  match change.check with
  | .error refusal => .deny (.refused refusal)
  | .ok () =>
    withGroup store session name fun group =>
      .change .update session (change.apply moment.now group)
        (.upsertGroup (change.apply moment.now group))
        (.json 200 (Json.encode (change.apply moment.now group)))

/-- The plan for creating a template. -/
def createTemplatePlan (moment : Moment) (session : Session) (draft : TemplateDraft) : Plan :=
  match draft.check with
  | .error refusal => .deny (.refused refusal)
  | .ok () =>
    .write (.upsertTemplate (draft.template moment session))
      (.json 201 (Json.encode (draft.template moment session)))

/-- The plan of a task for a store. -/
def plan (moment : Moment) (store : Store) : Task → Plan
  | settled result => .settle result
  | listGroups session page =>
    .settle (.ok (.json 200
      (.array ((page.slice (store.groupsOf session.accountId)).map Json.encode))))
  | createGroup session draft => createGroupPlan moment store session draft
  | showGroup session name =>
    withGroup store session name fun group => .settle (.ok (.json 200 (Json.encode group)))
  | updateGroup session name change => updateGroupPlan moment store session name change
  | deleteGroup session name =>
    withGroup store session name fun group =>
      .change .delete session group (.deleteGroup session.accountId group.name) (.empty 204)
  | listTemplates session page =>
    .settle (.ok (.json 200
      (.array ((page.slice (store.templatesOf session.accountId)).map Json.encode))))
  | createTemplate session draft => createTemplatePlan moment session draft
  | showTemplate session id =>
    match (store.templates.find? id).filter (·.accountId = session.accountId) with
    | none => .deny (.failed (.notFound ("template " ++ id.text)))
    | some template => .settle (.ok (.json 200 (Json.encode template)))
  | deleteTemplate session id =>
    .write (.deleteTemplate session.accountId id) (.empty 204)

end Task

/-- The plans that tasks give rise to, with what has been checked for them. -/
inductive Plan.Arises (moment : Moment) (store : Store) : Plan → Prop where
  | settle (result : Except Denial Response) : Arises moment store (.settle result)
  | createTemplate (session : Session) (draft : TemplateDraft)
      (checked : draft.check = .ok ()) :
      Arises moment store
        (.write (.upsertTemplate (draft.template moment session))
          (.json 201 (Json.encode (draft.template moment session))))
  | deleteTemplate (session : Session) (id : Uuid) :
      Arises moment store (.write (.deleteTemplate session.accountId id) (.empty 204))
  | createGroup (session : Session) (draft : GroupDraft) (name : String)
      (named : checkGroupName name = .ok ()) (sized : checkCapacity draft.capacity = .ok ())
      (free : store.groups.find? (session.accountId, name) = none) :
      Arises moment store
        (.change .submit session (draft.group moment session name)
          (.insertGroup (draft.group moment session name))
          (.json 201 (Json.encode (draft.group moment session name))))
  | updateGroup (session : Session) (change : GroupChange) (name : String) (group : Group)
      (checked : change.check = .ok ())
      (found : store.groups.find? (session.accountId, name) = some group) :
      Arises moment store
        (.change .update session (change.apply moment.now group)
          (.upsertGroup (change.apply moment.now group))
          (.json 200 (Json.encode (change.apply moment.now group))))
  | deleteGroup (session : Session) (name : String) (group : Group)
      (found : store.groups.find? (session.accountId, name) = some group) :
      Arises moment store
        (.change .delete session group (.deleteGroup session.accountId group.name) (.empty 204))

namespace Task

variable (moment : Moment) (store : Store)

theorem withGroup_arises {session : Session} {name : String} {next : Group → Plan}
    (arises : ∀ group, store.groups.find? (session.accountId, name) = some group →
      (next group).Arises moment store) :
    (withGroup store session name next).Arises moment store := by
  unfold withGroup
  cases found : store.groups.find? (session.accountId, name) with
  | none => exact .settle _
  | some group => exact arises group found

theorem plan_arises (task : Task) : (task.plan moment store).Arises moment store := by
  cases task with
  | settled => exact .settle _
  | listGroups => exact .settle _
  | createGroup session draft =>
      rw [plan, createGroupPlan]
      cases named : checkGroupName (Text.trim draft.name) with
      | error refusal => exact .settle _
      | ok _ =>
          cases sized : checkCapacity draft.capacity with
          | error refusal => exact .settle _
          | ok _ =>
              cases free : store.groups.find? (session.accountId, Text.trim draft.name) with
              | some group => exact .settle _
              | none => exact .createGroup session draft _ named sized free
  | showGroup session name => exact withGroup_arises moment store fun _ _ => .settle _
  | updateGroup session name change =>
      rw [plan, updateGroupPlan]
      cases checked : change.check with
      | error refusal => exact .settle _
      | ok _ =>
          exact withGroup_arises moment store fun group found =>
            .updateGroup session change name group checked found
  | deleteGroup session name =>
      exact withGroup_arises moment store fun group found =>
        .deleteGroup session name group found
  | listTemplates => exact .settle _
  | createTemplate session draft =>
      rw [plan, createTemplatePlan]
      cases checked : draft.check with
      | error refusal => exact .settle _
      | ok _ => exact .createTemplate session draft checked
  | showTemplate session id =>
      rw [plan]
      cases (store.templates.find? id).filter (·.accountId = session.accountId) <;>
        exact .settle _
  | deleteTemplate session id => exact .deleteTemplate session id

end Task

theorem Plan.Arises.response_eq {moment : Moment} {store : Store} {operation : Operation}
    {session : Session} {group : Group} {call : StoreCall} {response : Response}
    (arises : (Plan.change operation session group call response).Arises moment store) :
    response = operation.response group := by
  cases arises <;> rfl

/-- The operation that a task is about. -/
def Task.operation? : Task → Option Operation
  | createGroup _ _ => some .submit
  | updateGroup _ _ _ => some .update
  | deleteGroup _ _ => some .delete
  | _ => none

/-- The task changes a group of the store by an operation and then a write. -/
inductive Task.Changes (moment : Moment) (store : Store) :
    Task → Operation → Session → Group → StoreCall → Prop where
  | creates (session : Session) (draft : GroupDraft)
      (free : store.groups.find? (session.accountId, Text.trim draft.name) = none) :
      Changes moment store (.createGroup session draft) .submit session
        (draft.group moment session (Text.trim draft.name))
        (.insertGroup (draft.group moment session (Text.trim draft.name)))
  | updates (session : Session) (name : String) (change : GroupChange) (group : Group)
      (found : store.groups.find? (session.accountId, name) = some group) :
      Changes moment store (.updateGroup session name change) .update session
        (change.apply moment.now group) (.upsertGroup (change.apply moment.now group))
  | deletes (session : Session) (name : String) (group : Group)
      (found : store.groups.find? (session.accountId, name) = some group) :
      Changes moment store (.deleteGroup session name) .delete session group
        (.deleteGroup session.accountId group.name)

/-- The task makes one write, of a template. -/
inductive Task.Writes (moment : Moment) : Task → StoreCall → Prop where
  | creates (session : Session) (draft : TemplateDraft) :
      Writes moment (.createTemplate session draft)
        (.upsertTemplate (draft.template moment session))
  | deletes (session : Session) (id : Uuid) :
      Writes moment (.deleteTemplate session id) (.deleteTemplate session.accountId id)

section Cases

variable {moment : Moment} {store : Store} {task : Task} {call : StoreCall} {response : Response}

variable (moment store task) in
/-- A plan is settled, or it is for a change of a group or for a write of a template.  For an
operation on a group only a denial settles it. -/
theorem Task.plan_cases :
    (∃ result, task.plan moment store = .settle result ∧
      (task.operation? ≠ none → ∃ denial, result = .error denial)) ∨
    (∃ operation session group call response,
      task.plan moment store = .change operation session group call response ∧
        task.Changes moment store operation session group call) ∨
    ∃ call response, task.plan moment store = .write call response ∧ task.Writes moment call := by
  cases task with
  | settled | listGroups | listTemplates => exact .inl ⟨_, rfl, fun about => absurd rfl about⟩
  | createGroup session draft =>
      rw [plan, createGroupPlan]
      split
      · exact .inl ⟨_, rfl, fun _ => ⟨_, rfl⟩⟩
      · split
        · exact .inl ⟨_, rfl, fun _ => ⟨_, rfl⟩⟩
        · split
          · exact .inl ⟨_, rfl, fun _ => ⟨_, rfl⟩⟩
          · next taken =>
              exact .inr (.inl ⟨_, _, _, _, _, rfl, .creates session draft (by simpa using taken)⟩)
  | showGroup session name =>
      rw [plan, withGroup]
      split <;> exact .inl ⟨_, rfl, fun about => absurd rfl about⟩
  | updateGroup session name change =>
      rw [plan, updateGroupPlan]
      split
      · exact .inl ⟨_, rfl, fun _ => ⟨_, rfl⟩⟩
      · rw [withGroup]
        split
        · exact .inl ⟨_, rfl, fun _ => ⟨_, rfl⟩⟩
        · next found =>
            exact .inr (.inl ⟨_, _, _, _, _, rfl, .updates session name change _ found⟩)
  | deleteGroup session name =>
      rw [plan, withGroup]
      split
      · exact .inl ⟨_, rfl, fun _ => ⟨_, rfl⟩⟩
      · next found => exact .inr (.inl ⟨_, _, _, _, _, rfl, .deletes session name _ found⟩)
  | createTemplate session draft =>
      rw [plan, createTemplatePlan]
      split
      · exact .inl ⟨_, rfl, fun about => absurd rfl about⟩
      · exact .inr (.inr ⟨_, _, rfl, .creates session draft⟩)
  | showTemplate session id =>
      rw [plan]
      split <;> exact .inl ⟨_, rfl, fun about => absurd rfl about⟩
  | deleteTemplate session id => exact .inr (.inr ⟨_, _, rfl, .deletes session id⟩)

theorem Task.changes_of_plan {operation : Operation} {session : Session} {group : Group}
    (planned : task.plan moment store = .change operation session group call response) :
    task.Changes moment store operation session group call := by
  rcases task.plan_cases moment store with
    ⟨_, settles, -⟩ | ⟨_, _, _, _, _, same, changes⟩ | ⟨_, _, writes, -⟩
  · cases planned.symm.trans settles
  · cases planned.symm.trans same
    exact changes
  · cases planned.symm.trans writes

theorem Task.writes_of_plan (planned : task.plan moment store = .write call response) :
    task.Writes moment call := by
  rcases task.plan_cases moment store with
    ⟨_, settles, -⟩ | ⟨_, _, _, _, _, changes, -⟩ | ⟨_, _, same, writes⟩
  · cases planned.symm.trans settles
  · cases planned.symm.trans changes
  · cases planned.symm.trans same
    exact writes

theorem Task.Changes.operation?_eq {operation : Operation} {session : Session} {group : Group}
    (changes : task.Changes moment store operation session group call) :
    task.operation? = some operation := by
  cases changes <;> rfl

theorem Task.Writes.operation?_eq (writes : task.Writes moment call) : task.operation? = none := by
  cases writes <;> rfl

end Cases

section Outcomes

variable {σ : Type} (scheduler : Scheduler σ) (store : Store) (state : σ)

theorem outcome_check {α : Type} (result : Except Refusal α) :
    Action.outcome scheduler store state (Handling.check result) =
      ⟨result.mapError .refused, store, state, []⟩ :=
  rfl

theorem outcome_ask (call : StoreCall) :
    Action.outcome scheduler store state (Handling.ask call) =
      ⟨(store.perform call).1.mapError .failed, (store.perform call).2, state, []⟩ :=
  rfl

theorem outcome_ofAction {α : Type} (action : Action Failure α) :
    Action.outcome scheduler store state (Handling.ofAction action) =
      (Action.outcome scheduler store state action).map (Except.mapError .failed) :=
  Action.outcome_mapFailure _ _ _ _ _

theorem outcome_loadGroup (session : Session) (name : String) :
    Action.outcome scheduler store state (loadGroup session name) =
      match store.groups.find? (session.accountId, name) with
      | none => ⟨.error (.failed (.notFound ("service group " ++ name))), store, state, []⟩
      | some group => ⟨.ok group, store, state, []⟩ := by
  rw [loadGroup, Action.outcome_bind, outcome_ask, Store.perform_group]
  cases store.groups.find? (session.accountId, name) <;> rfl

/-- Going on with a group that is loaded is following the plan for it. -/
theorem outcome_loadGroup_bind (release : String) (session : Session) (name : String)
    (next : Group → Handling Response) (plan : Group → Plan)
    (same : ∀ group, next group = (plan group).handling release) :
    Action.outcome scheduler store state (loadGroup session name >>= next) =
      Action.outcome scheduler store state
        ((Task.withGroup store session name plan).handling release) := by
  rw [Action.outcome_bind, outcome_loadGroup, Task.withGroup]
  cases store.groups.find? (session.accountId, name) with
  | none => rfl
  | some group => simp [same]

/-- Carrying out a task on a store is carrying out its plan for that store. -/
theorem outcome_task (release : String) (moment : Moment) (task : Task) :
    Action.outcome scheduler store state (task.handling release moment) =
      Action.outcome scheduler store state ((task.plan moment store).handling release) := by
  cases task with
  | settled result => rfl
  | listGroups session page => rfl
  | createGroup session draft =>
      rw [Task.handling, createGroup, Task.plan, Task.createGroupPlan]
      cases checkGroupName (Text.trim draft.name) with
      | error refusal => rfl
      | ok _ =>
          rw [Action.outcome_bind, outcome_check]
          simp only [Except.mapError, Outcome.thenDo_ok, Outcome.after_nil]
          cases checkCapacity draft.capacity with
          | error refusal => rfl
          | ok _ =>
              rw [Action.outcome_bind, outcome_check]
              simp only [Except.mapError, Outcome.thenDo_ok, Outcome.after_nil]
              rw [Action.outcome_bind, outcome_ask, Store.perform_group]
              simp only [Except.mapError, Outcome.thenDo_ok, Outcome.after_nil]
              cases store.groups.find? (session.accountId, Text.trim draft.name) <;> rfl
  | showGroup session name => exact outcome_loadGroup_bind _ _ _ release _ _ _ _ fun _ => rfl
  | updateGroup session name change =>
      rw [Task.handling, updateGroup, Task.plan, Task.updateGroupPlan]
      cases change.check with
      | error refusal => rfl
      | ok _ =>
          rw [Action.outcome_bind, outcome_check]
          simp only [Except.mapError, Outcome.thenDo_ok, Outcome.after_nil]
          exact outcome_loadGroup_bind _ _ _ release _ _ _ _ fun _ => rfl
  | deleteGroup session name => exact outcome_loadGroup_bind _ _ _ release _ _ _ _ fun _ => rfl
  | listTemplates session page => rfl
  | createTemplate session draft =>
      rw [Task.handling, createTemplate, Task.plan, Task.createTemplatePlan]
      cases draft.check <;> rfl
  | showTemplate session id =>
      rw [Task.handling, showTemplate, Task.plan, Action.outcome_bind, outcome_ask,
        Store.perform_template]
      simp only [Except.mapError, Outcome.thenDo_ok, Outcome.after_nil]
      cases (store.templates.find? id).filter (·.accountId = session.accountId) <;> rfl
  | deleteTemplate session id => rfl

theorem outcome_write (release : String) (call : StoreCall) (response : Response) :
    Action.outcome scheduler store state ((Plan.write call response).handling release) =
      ⟨((store.perform call).1.mapError .failed).map fun _ => response,
        (store.perform call).2, state, []⟩ := by
  rw [Plan.handling, Action.outcome_bind, outcome_ask]
  cases (store.perform call).1 <;> rfl

/-- When the operation fails, the store is not touched. -/
theorem outcome_change_of_error (release : String) {operation : Operation} {session : Session}
    {group : Group} {failure : Failure} {final : σ} {calls : List JobsCall}
    (run : Action.outcome scheduler store state (operation.action release session group) =
      ⟨.error failure, store, final, calls⟩) (call : StoreCall) (response : Response) :
    Action.outcome scheduler store state
        ((Plan.change operation session group call response).handling release) =
      ⟨.error (.failed failure), store, final, calls⟩ := by
  rw [Plan.handling, Action.outcome_bind, outcome_ofAction, run]
  rfl

/-- When the operation succeeds, the write is made on the store as it was. -/
theorem outcome_change_of_ok (release : String) {operation : Operation} {session : Session}
    {group : Group} {final : σ} {calls : List JobsCall}
    (run : Action.outcome scheduler store state (operation.action release session group) =
      ⟨.ok (), store, final, calls⟩) (call : StoreCall) (response : Response) :
    Action.outcome scheduler store state
        ((Plan.change operation session group call response).handling release) =
      ⟨((store.perform call).1.mapError .failed).map fun _ => response,
        (store.perform call).2, final, calls⟩ := by
  rw [Plan.handling, Action.outcome_bind, outcome_ofAction, run]
  simp only [Outcome.map_mk, Except.mapError, Outcome.thenDo_ok]
  rw [Action.outcome_bind, outcome_ask]
  cases (store.perform call).1 <;> simp [Except.mapError, Except.map]

end Outcomes

end Http

end ServiceGroups
