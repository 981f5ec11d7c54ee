import ServiceGroups.Proofs.Concurrency.Parts
import ServiceGroups.Proofs.Http.WellFormed

/-!
# Key material stays inside

Key material is read in one place, to be written into the text of a job that goes to the
scheduler.  Two stores that differ in key material alone therefore answer every request
alike, and the scheduler is asked the same but for the texts that it parses.
-/

namespace ServiceGroups

variable {α β ε σ : Type}

/-- The credential without its key material. -/
def Credential.masked (credential : Credential) : Credential :=
  { credential with keyMaterial := "" }

/-- The details without what they must not give away. -/
def Job.Details.masked (details : Job.Details) : Job.Details :=
  { details with keyMaterial := "", userData := none, tags := .empty, metadata := .empty }

theorem Credential.debugText_masked (credential : Credential) :
    credential.masked.debugText = credential.debugText :=
  rfl

theorem Job.Details.debugText_masked (details : Job.Details) :
    details.masked.debugText = details.debugText :=
  rfl

/-- The stores differ in the key material of credentials alone. -/
structure Store.SameButKeys (first second : Store) : Prop where
  accounts : first.accounts = second.accounts
  credentials : ∀ id, (first.credentials.find? id).map Credential.masked =
    (second.credentials.find? id).map Credential.masked
  templates : first.templates = second.templates
  groups : first.groups = second.groups

/-- The same call, or two calls to parse a text. -/
inductive JobsCall.SameButText : JobsCall → JobsCall → Prop where
  | parse (text other : String) : SameButText (.parse text) (.parse other)
  | same (call : JobsCall) : SameButText call call

/-- What the scheduler says of a text does not depend on the text. -/
def Scheduler.IgnoresTexts (scheduler : Scheduler σ) : Prop :=
  ∀ text other state, scheduler.answer (.parse text) state = scheduler.answer (.parse other) state

/-- The results that a script has for a call, whichever call it is. -/
structure Scripted where
  parsed : Except Failure Job.Spec
  validated : Except Failure Unit
  evaluated : Except Failure Evaluation

/-- The scheduler that answers its calls by a script, one result after another. -/
def Scheduler.scripted (script : Nat → Scripted) : Scheduler Nat where
  answer
    | .parse _, made => ((script made).parsed, made + 1)
    | .validate _, made => ((script made).validated, made + 1)
    | .register _, made => ((script made).evaluated, made + 1)
    | .deregister _ _, made => ((script made).evaluated, made + 1)
    | .force _, made => ((script made).evaluated, made + 1)

theorem Scheduler.ignoresTexts_scripted (script : Nat → Scripted) :
    (scripted script).IgnoresTexts :=
  fun _ _ _ => rfl

namespace Store

def withCredentials (store : Store) (credentials : Table AccountId Credential) : Store :=
  { store with credentials }

theorem SameButKeys.eq_withCredentials {first second : Store} (same : first.SameButKeys second) :
    second = first.withCredentials second.credentials :=
  Store.ext same.accounts.symm rfl same.templates.symm same.groups.symm

theorem precheck_withCredentials (store : Store) (credentials : Table AccountId Credential)
    (call : StoreCall) : (store.withCredentials credentials).precheck call = store.precheck call := by
  cases call <;> rfl

theorem commit_withCredentials (store : Store) (credentials : Table AccountId Credential)
    {call : StoreCall} (apart : call.part ≠ .credentials) :
    (store.withCredentials credentials).commit call =
      (store.commit call).map id (·.withCredentials credentials) := by
  cases call with
  | upsertCredential | credential => exact absurd rfl apart
  | upsertTemplate template =>
      simp only [commit, putTemplate, apply_ite (Prod.map id _)]
      rfl
  | deleteTemplate owner template =>
      simp only [commit, dropTemplate, apply_ite (Prod.map id _)]
      rfl
  | insertGroup group =>
      simp only [commit, addGroup, apply_ite (Prod.map id _)]
      rfl
  | deleteGroup owner name =>
      simp only [commit, dropGroup, apply_ite (Prod.map id _)]
      rfl
  | upsertAccount | account | template | templates | upsertGroup | group | groups => rfl

/-- The calls other than those on credentials do not look at credentials. -/
theorem perform_withCredentials (store : Store) (credentials : Table AccountId Credential)
    {call : StoreCall} (apart : call.part ≠ .credentials) :
    (store.withCredentials credentials).perform call =
      ((store.perform call).1, (store.perform call).2.withCredentials credentials) := by
  cases checking : store.precheck call with
  | error failure =>
      rw [perform_of_refused _ _ checking, perform_of_refused]
      rw [precheck_withCredentials, checking]
  | ok _ =>
      rw [perform_of_checked _ _ checking, perform_of_checked,
        commit_withCredentials store credentials apart]
      · rfl
      · rw [precheck_withCredentials, checking]

theorem SameButKeys.withCredentials {store next : Store} {credentials : Table AccountId Credential}
    (same : store.SameButKeys (store.withCredentials credentials))
    (kept : next.credentials = store.credentials) :
    next.SameButKeys (next.withCredentials credentials) where
  accounts := rfl
  credentials id := by
    rw [kept]
    exact same.credentials id
  templates := rfl
  groups := rfl

/-- A store in which a credential has another key. -/
theorem sameButKeys_put {store : Store} {id : AccountId} {credential other : Credential}
    (stored : store.credentials.find? id = some credential)
    (same : other.masked = credential.masked) :
    store.SameButKeys (store.withCredentials (store.credentials.put id other)) where
  accounts := rfl
  credentials key := by
    rw [withCredentials, Table.find?_put]
    split
    · next replaced => rw [replaced, stored, Option.map_some, Option.map_some, same]
    · rfl
  templates := rfl
  groups := rfl

theorem SameButKeys.perform {first second : Store} (same : first.SameButKeys second)
    {call : StoreCall} (apart : call.part ≠ .credentials) :
    (first.perform call).1 = (second.perform call).1 ∧
      (first.perform call).2.SameButKeys (second.perform call).2 := by
  obtain ⟨credentials, rfl⟩ : ∃ credentials, second = first.withCredentials credentials :=
    ⟨_, same.eq_withCredentials⟩
  rw [perform_withCredentials first credentials apart]
  exact ⟨rfl, same.withCredentials (samePart_perform call apart.symm)⟩

end Store

/-- Outcomes that differ in key material alone: in the stores that they leave and in texts that
the scheduler was asked to parse. -/
structure Outcome.SameButKeys (one other : Outcome α σ) : Prop where
  result : one.result = other.result
  store : one.store.SameButKeys other.store
  state : one.state = other.state
  calls : List.Forall₂ JobsCall.SameButText one.calls other.calls

theorem Outcome.SameButKeys.after {one other : Outcome α σ} (same : one.SameButKeys other)
    {before beforeOther : List JobsCall}
    (calls : List.Forall₂ JobsCall.SameButText before beforeOther) :
    (one.after before).SameButKeys (other.after beforeOther) :=
  ⟨same.result, same.store, same.state, List.rel_append calls same.calls⟩

theorem Outcome.SameButKeys.map {one other : Outcome α σ} (same : one.SameButKeys other)
    (change : α → β) : (one.map change).SameButKeys (other.map change) :=
  ⟨congrArg change same.result, same.store, same.state, same.calls⟩

/-- On stores that differ in key material alone, the program has outcomes that differ in it
alone. -/
def Program.HidesKeys (scheduler : Scheduler σ) (program : Program α) : Prop :=
  ∀ first second state, first.SameButKeys second →
    (program.run scheduler first state).SameButKeys (program.run scheduler second state)

structure Action.HidesKeys (scheduler : Scheduler σ) (action : Action ε α) : Prop where
  run : (ExceptT.run action).HidesKeys scheduler

section Programs

variable {scheduler : Scheduler σ}

theorem Program.hidesKeys_done (result : α) : (Program.done result).HidesKeys scheduler :=
  fun _ _ _ same => ⟨rfl, same, rfl, .nil⟩

theorem Program.HidesKeys.bind {program : Program α} {next : α → Program β}
    (hides : program.HidesKeys scheduler) (rest : ∀ result, (next result).HidesKeys scheduler) :
    (program.bind next).HidesKeys scheduler := by
  intro first second state same
  obtain ⟨result, store, final, calls⟩ := hides first second state same
  rw [Program.run_bind, Program.run_bind, ← result, ← final]
  exact (rest _ _ _ _ store).after calls

namespace Action

variable {action : Action ε α} {next : α → Action ε β}

theorem HidesKeys.bind (hides : action.HidesKeys scheduler)
    (rest : ∀ value, HidesKeys scheduler (next value)) :
    HidesKeys scheduler (action >>= next) := by
  constructor
  rw [ExceptT.run_bind]
  refine Program.HidesKeys.bind hides.run fun result => ?_
  cases result with
  | ok value => exact (rest value).run
  | error failure => exact Program.hidesKeys_done _

theorem HidesKeys.done (result : Except ε α) :
    HidesKeys scheduler (ExceptT.mk (.done result)) :=
  ⟨Program.hidesKeys_done result⟩

theorem HidesKeys.require (failure : ε) (found : Option α) :
    HidesKeys scheduler (require failure found) := by
  cases found <;> exact .done _

theorem HidesKeys.askStore {call : StoreCall} (apart : call.part ≠ .credentials) :
    HidesKeys scheduler (ServiceGroups.askStore call) := by
  refine ⟨fun first second state same => ?_⟩
  obtain ⟨reply, stores⟩ := same.perform apart
  exact ⟨reply, stores, rfl, .nil⟩

theorem HidesKeys.mapFailure {ε' : Type} (change : ε → ε') (hides : action.HidesKeys scheduler) :
    HidesKeys scheduler (action.mapFailure change) :=
  ⟨Program.HidesKeys.bind hides.run fun _ => Program.hidesKeys_done _⟩

theorem HidesKeys.step (name : String) (call : JobsCall) :
    HidesKeys scheduler (Orchestrator.step name call) :=
  ⟨fun _ _ _ same => ⟨rfl, same, rfl, .cons (.same call) .nil⟩⟩

theorem HidesKeys.follow (stages : List Stage) :
    HidesKeys scheduler (Orchestrator.follow stages) := by
  induction stages with
  | nil => exact .done _
  | cons stage rest ih => exact (HidesKeys.step stage.name stage.call).bind fun _ => ih

end Action

/-- Whatever texts are parsed, the outcomes do not differ otherwise. -/
theorem Orchestrator.step_parse_sameButKeys (ignores : scheduler.IgnoresTexts) {first second : Store}
    (same : first.SameButKeys second) (name text other : String) (state : σ) :
    (Action.outcome scheduler first state (step name (.parse text))).SameButKeys
      (Action.outcome scheduler second state (step name (.parse other))) := by
  rw [outcome_step, outcome_step, ignores text other]
  exact ⟨rfl, same, rfl, .cons (.parse text other) .nil⟩

/-- The text of a job depends on the key, but what the scheduler makes of it does not. -/
theorem Orchestrator.prepareJob_hidesKeys (ignores : scheduler.IgnoresTexts) (release : String)
    (session : Session) (template : Template) (group : Group) :
    (prepareJob release session template group).HidesKeys scheduler := by
  refine ⟨fun first second state same => ?_⟩
  change (Action.outcome scheduler first state _).SameButKeys
    (Action.outcome scheduler second state _)
  rw [prepareJob, Action.outcome_bind, Action.outcome_bind, outcome_jobDetails,
    outcome_jobDetails, ← same.accounts]
  cases first.accounts.find? session.accountId with
  | none => exact ⟨rfl, same, rfl, .nil⟩
  | some account =>
      -- Both stores have the credential, or neither has; all that differs is the text to parse.
      have masked := same.credentials account.id
      cases one : first.credentials.find? account.id with
      | none =>
          rw [one, Option.map_none, eq_comm, Option.map_eq_none_iff] at masked
          simp only [one, masked]
          exact ⟨rfl, same, rfl, .nil⟩
      | some credential =>
          rw [one, Option.map_some, eq_comm, Option.map_eq_some_iff] at masked
          obtain ⟨other, found, -⟩ := masked
          simp only [one, found, Outcome.thenDo_ok, Outcome.after_nil]
          exact step_parse_sameButKeys ignores same _ _ _ state

theorem Operation.action_hidesKeys (ignores : scheduler.IgnoresTexts) (operation : Operation)
    (release : String) (session : Session) (group : Group) :
    (operation.action release session group).HidesKeys scheduler := by
  have findTemplate : (Orchestrator.findTemplate session group).HidesKeys scheduler :=
    (Action.HidesKeys.askStore (by simp [StoreCall.part])).bind fun found => .require _ found
  rw [action_eq]
  exact findTemplate.bind fun template =>
    (Orchestrator.prepareJob_hidesKeys ignores release session template _).bind fun job =>
      .follow (operation.stages job)

end Programs

namespace Http

section Requests

variable {scheduler : Scheduler σ} {moment : Moment} {store : Store}

/-- No request writes a credential. -/
theorem Plan.Arises.part_ne_credentials {plan : Plan} (arises : plan.Arises moment store)
    {call : StoreCall} (writes : plan.call? = some call) : call.part ≠ .credentials := by
  cases arises <;> cases writes <;> simp [StoreCall.part]

/-- Key material has no part in the plan of a task. -/
theorem Task.plan_withCredentials (task : Task) (credentials : Table AccountId Credential) :
    task.plan moment (store.withCredentials credentials) = task.plan moment store := by
  cases task <;> rfl

theorem Plan.handling_hidesKeys (ignores : scheduler.IgnoresTexts) (release : String) {plan : Plan}
    (apart : ∀ call, plan.call? = some call → call.part ≠ .credentials) :
    (plan.handling release).HidesKeys scheduler := by
  cases plan with
  | settle result => exact .done result
  | write call response =>
      exact (Action.HidesKeys.mapFailure _ (.askStore (apart call rfl))).bind fun _ => .done _
  | change operation session group call response =>
      have operated := operation.action_hidesKeys ignores release session group
      exact (operated.mapFailure _).bind fun _ =>
        (Action.HidesKeys.mapFailure _ (.askStore (apart call rfl))).bind fun _ => .done _

theorem Task.handling_hidesKeys (ignores : scheduler.IgnoresTexts) (release : String)
    (moment : Moment) (task : Task) : (task.handling release moment).HidesKeys scheduler := by
  refine ⟨fun first second state same => ?_⟩
  have arises := task.plan_arises moment first
  have plans : task.plan moment second = task.plan moment first := by
    rw [same.eq_withCredentials]
    exact task.plan_withCredentials second.credentials
  change (Action.outcome scheduler first state _).SameButKeys
    (Action.outcome scheduler second state _)
  rw [outcome_task, outcome_task, plans]
  exact (Plan.handling_hidesKeys ignores release fun _ writes =>
    arises.part_ne_credentials writes).run first second state same

namespace Service

variable (service : Service)

theorem handle_hidesKeys (ignores : scheduler.IgnoresTexts) (moment : Moment) (request : Request) :
    (service.handle moment request).HidesKeys scheduler := by
  intro first second state same
  rw [run_handle, run_handle]
  have hides := (service.task moment request).handling_hidesKeys ignores service.release moment
  exact (hides.run first second state same).map _

/-- Handle requests one after another. -/
def handleAll : List (Moment × Request) → Program (List Response)
  | [] => .done []
  | (moment, request) :: rest =>
    (service.handle moment request).bind fun response =>
      (handleAll rest).bind fun responses => .done (response :: responses)

/-- Two stores that differ in the key material of credentials alone give the same responses to
any sequence of requests, leave stores that differ in key material alone, and lead to the same
calls of the scheduler but for the texts that it parses, if what the scheduler says of a text
does not depend on the text.  Nor do the debugging views of credentials and of the details of
jobs depend on key material, and those of details do not depend on user data, tags and
metadata either. -/
theorem key_material_stays_inside (ignores : scheduler.IgnoresTexts) :
    (∀ (traffic : List (Moment × Request)) (first second : Store) (state : σ),
      first.SameButKeys second →
      ((service.handleAll traffic).run scheduler first state).SameButKeys
        ((service.handleAll traffic).run scheduler second state)) ∧
    (∀ credential other : Credential, credential.masked = other.masked →
      credential.debugText = other.debugText) ∧
    ∀ details other : Job.Details, details.masked = other.masked →
      details.debugText = other.debugText := by
  refine ⟨fun traffic => ?_, fun credential other same => ?_, fun details other same => ?_⟩
  · suffices hides : (service.handleAll traffic).HidesKeys scheduler from hides
    induction traffic with
    | nil => exact Program.hidesKeys_done []
    | cons sent rest ih =>
        exact (service.handle_hidesKeys ignores sent.1 sent.2).bind fun _ =>
          ih.bind fun _ => Program.hidesKeys_done _
  · rw [← credential.debugText_masked, same, other.debugText_masked]
  · rw [← details.debugText_masked, same, other.debugText_masked]

end Service

end Requests

namespace Sample

/-- The store with the group, where the first tenant has another key. -/
def rekeyed : Store :=
  withGroup.withCredentials
    (withGroup.credentials.put ⟨⟨1⟩⟩ { (tenant 1).2 with keyMaterial := "other" })

def script (_ : Nat) : Scripted :=
  ⟨.ok ⟨"job", .null⟩, .ok (), .ok ⟨""⟩⟩

def afterScripted (store : Store) : Outcome (List Response) Nat :=
  (service.handleAll [(moment 9, groupDeletion)]).run (.scripted script) store 0

theorem sameButKeys_rekeyed : withGroup.SameButKeys rekeyed := by
  have stored : withGroup.credentials.find? ⟨⟨1⟩⟩ = some (tenant 1).2 := by decide +kernel
  exact Store.sameButKeys_put stored rfl

end Sample

open Sample in
/-- A tenant deletes its group in the same way whatever its key is. -/
theorem Service.deletion_hides_key :
    withGroup.credentials.find? ⟨⟨1⟩⟩ ≠ rekeyed.credentials.find? ⟨⟨1⟩⟩ ∧
      (afterScripted withGroup).SameButKeys (afterScripted rekeyed) ∧
      (afterScripted withGroup).result.map Response.status = [204] := by
  refine ⟨by decide +kernel, ?_, by decide +kernel⟩
  exact (Service.key_material_stays_inside service (Scheduler.ignoresTexts_scripted script)).1
    [(moment 9, groupDeletion)] withGroup rekeyed 0 sameButKeys_rekeyed

end Http

end ServiceGroups
