import ServiceGroups.Proofs.Sequence
import ServiceGroups.Proofs.Store.Calls

/-!
# Operations on the jobs of groups

The three operations on the job of a group differ only in their stages and in
the capacity that the job asks for.  Each looks up the rows it needs, has the
text of the job parsed, and follows its stages with the job it got back.  What
an operation does to the scheduler is therefore one theorem for all of them.
-/

namespace ServiceGroups

/-- What is done to the job of a group. -/
inductive Operation where
  | submit
  | update
  | delete
deriving DecidableEq, Repr

namespace Operation

/-- The operation as an action of the orchestrator. -/
def action : Operation → String → Session → Group → Action Failure Unit
  | submit => Orchestrator.submit
  | update => Orchestrator.update
  | delete => Orchestrator.delete

/-- The stages that register a job and run it once. -/
def registering (job : Job.Spec) : List Stage :=
  [⟨"validate nomad job", .validate job⟩, ⟨"register job with nomad", .register job⟩,
    ⟨"trigger a periodic instance of job", .force job.id⟩]

/-- The stage that removes a job for good. -/
def removing (job : Job.Spec) : List Stage :=
  [⟨"deregister job with nomad", .deregister job.id true⟩]

/-- The stages of the operation once its job is parsed. -/
def stages : Operation → Job.Spec → List Stage
  | submit, job => registering job
  | update, job => removing job ++ registering job
  | delete, job => removing job ++ registering job ++ removing job

/-- The capacity that the job of the operation asks for. -/
def count : Operation → Group → UInt32
  | delete, _ => 0
  | _, group => group.capacity

/-- Every operation finds its template, has its job parsed and follows its
stages. -/
theorem action_eq (operation : Operation) (release : String) (session : Session)
    (group : Group) :
    operation.action release session group = (do
      let template ← Orchestrator.findTemplate session group
      let job ← Orchestrator.prepareJob release session template
        { group with capacity := operation.count group }
      Orchestrator.follow (operation.stages job)) := by
  cases operation <;>
    simp [action, stages, count, Orchestrator.submit, Orchestrator.update,
      Orchestrator.delete, Orchestrator.registerJob, Orchestrator.deregisterJob,
      registering, removing, Orchestrator.follow]

end Operation

/-- The rows that an operation for a session needs are in the store: the template
of the group, which the session's account owns, the account, and its credential. -/
structure Store.Provides (store : Store) (session : Session) (group : Group)
    (template : Template) (account : Account) (credential : Credential) : Prop where
  templateFound : store.templates.find? group.templateId = some template
  templateOwned : template.accountId = session.accountId
  accountFound : store.accounts.find? session.accountId = some account
  credentialFound : store.credentials.find? account.id = some credential

theorem Store.Provides.holder {store : Store} {session : Session} {group : Group}
    {template : Template} {account : Account} {credential : Credential}
    (provides : store.Provides session group template account credential) :
    store.accounts.contains session.accountId := by
  simp [Table.contains, provides.accountFound]

/-- The details describe a job for the rows of an operation: the name of the job,
the session's place, the stored credential, the shape of the template, and a
count of machines. -/
structure Job.Details.Describes (details : Job.Details) (release : String)
    (session : Session) (groupName : String) (count : UInt32) (template : Template)
    (account : Account) (credential : Credential) : Prop where
  jobName : details.jobName = groupName ++ "_" ++ account.cloudId.text
  desiredCount : details.desiredCount = count
  groupName : details.groupName = groupName
  datacenter : details.datacenter = session.datacenter
  cloudUrl : details.cloudUrl = session.cloudUrl
  account : details.account = credential.accountName
  keyId : details.keyId = credential.keyId
  keyMaterial : details.keyMaterial = credential.keyMaterial
  templateId : details.templateId = template.id.text
  packageId : details.packageId = template.package
  imageId : details.imageId = template.imageId
  firewallEnabled : details.firewallEnabled = template.firewallEnabled
  networks : details.networks = template.networks
  userData : ∀ data, details.userData = some data ↔ template.userData = some data ∧ data ≠ ""
  tags : details.tags = template.tags
  metadata : details.metadata = template.metadata
  release : details.release = release

/-- How an operation ends whose job has the given text: the scheduler refuses to
parse the text, or the stages of the operation are followed with the job that
parsing gave back. -/
inductive Scheduler.Performs {σ : Type} (scheduler : Scheduler σ) (operation : Operation)
    (text : String) (state : σ) : Except Failure Unit → σ → List JobsCall → Prop where
  | unparsed {reason : Failure} {final : σ}
      (refusal : scheduler.answer (.parse text) state = (.error reason, final)) :
      Performs scheduler operation text state
        (.error (.orchestrator "parse nomad job" reason)) final [.parse text]
  | parsed {job : Job.Spec} {next final : σ} {result : Except Failure Unit}
      {calls : List JobsCall}
      (granted : scheduler.answer (.parse text) state = (.ok job, next))
      (follows : scheduler.Follows (operation.stages job) next result final calls) :
      Performs scheduler operation text state result final (.parse text :: calls)

/-- The scheduler grants the whole sequence of an operation: it parses the text and
then grants every stage. -/
inductive Scheduler.Completes {σ : Type} (scheduler : Scheduler σ) (operation : Operation)
    (text : String) (state : σ) : σ → List JobsCall → Prop where
  | intro {job : Job.Spec} {next final : σ}
      (parsed : scheduler.answer (.parse text) state = (.ok job, next))
      (grants : scheduler.Grants ((operation.stages job).map Stage.call) next final) :
      Completes scheduler operation text state final
        (.parse text :: (operation.stages job).map Stage.call)

namespace Scheduler.Performs

variable {σ : Type} {scheduler : Scheduler σ} {operation : Operation} {text : String}
variable {state final : σ} {calls : List JobsCall}

theorem completes (performs : scheduler.Performs operation text state (.ok ()) final calls) :
    scheduler.Completes operation text state final calls := by
  cases performs with
  | parsed granted follows =>
      cases follows with
      | granted grants => exact .intro granted grants

/-- A failure names the step of the call that the scheduler refused. -/
theorem refusal {failure : Failure}
    (performs : scheduler.Performs operation text state (.error failure) final calls) :
    ∃ step reason call middle, failure = .orchestrator step reason ∧
      scheduler.answer call middle = (.error reason, final) := by
  cases performs with
  | unparsed refusal => exact ⟨_, _, _, _, rfl, refusal⟩
  | parsed granted follows =>
      cases follows with
      | refused split grants refusal => exact ⟨_, _, _, _, rfl, refusal⟩

/-- If every call made is granted, the operation succeeds. -/
theorem eq_ok_of_grants {result : Except Failure Unit} {other : σ}
    (performs : scheduler.Performs operation text state result final calls)
    (granted : scheduler.Grants calls state other) : result = .ok () := by
  cases performs with
  | unparsed refusal =>
      exact absurd granted ((Scheduler.Grants.nil state).not_append_of_refused refusal)
  | parsed parsed follows =>
      rcases granted with _ | ⟨parsedToo, others⟩
      rw [parsed] at parsedToo
      cases parsedToo
      exact follows.eq_ok_of_grants others

end Scheduler.Performs

namespace Orchestrator

variable {σ : Type} (scheduler : Scheduler σ) (store : Store) (state : σ)
variable (release : String) (session : Session)

theorem fillDetails_describes (template : Template) (group : Group) (account : Account)
    (credential : Credential) :
    (fillDetails release session template group account credential).Describes release session
      group.name group.capacity template account credential := by
  constructor <;> try rfl
  intro data
  simp [fillDetails, Job.Details.ofTemplate, Job.Details.nonEmpty?, Option.filter_eq_some_iff]

/-- Gathering details needs the account and its credential and makes no call of
the scheduler. -/
theorem outcome_jobDetails (template : Template) (group : Group) :
    Action.outcome scheduler store state (jobDetails release session template group) =
      match store.accounts.find? session.accountId with
      | none => ⟨.error (.notFound ("account " ++ session.accountId.text)), store, state, []⟩
      | some account =>
        match store.credentials.find? account.id with
        | none =>
          ⟨.error (.notFound ("triton credential for account " ++ account.id.text)), store,
            state, []⟩
        | some credential =>
          ⟨.ok (fillDetails release session template group account credential), store, state,
            []⟩ := by
  rw [jobDetails, Action.outcome_bind, Action.outcome_askStore, Store.perform_account]
  cases store.accounts.find? session.accountId with
  | none => simp [Action.outcome_bind]
  | some account =>
      simp only [Outcome.thenDo_ok, Action.outcome_bind, Action.outcome_require_some,
        Outcome.after_nil]
      rw [Action.outcome_askStore, Store.perform_credential]
      cases store.credentials.find? account.id <;> simp

theorem outcome_findTemplate (group : Group) :
    Action.outcome scheduler store state (findTemplate session group) =
      match (store.templates.find? group.templateId).filter
          (·.accountId = session.accountId) with
      | none => ⟨.error (.notFound ("template " ++ group.templateId.text)), store, state, []⟩
      | some template => ⟨.ok template, store, state, []⟩ := by
  rw [findTemplate, Action.outcome_bind, Action.outcome_askStore, Store.perform_template]
  cases (store.templates.find? group.templateId).filter (·.accountId = session.accountId) <;>
    simp

theorem outcome_prepareJob_of_provides {template : Template} {group : Group} {account : Account}
    {credential : Credential} (provides : store.Provides session group template account credential)
    (count : UInt32) :
    ∃ details : Job.Details,
      details.Describes release session group.name count template account credential ∧
        Action.outcome scheduler store state
            (prepareJob release session template { group with capacity := count }) =
          ⟨(scheduler.answer (.parse details.render) state).1.mapError
              (.orchestrator "parse nomad job"), store,
            (scheduler.answer (.parse details.render) state).2, [.parse details.render]⟩ := by
  refine ⟨_, fillDetails_describes release session template { group with capacity := count }
    account credential, ?_⟩
  rw [prepareJob, Action.outcome_bind, outcome_jobDetails, provides.accountFound]
  simp only [provides.credentialFound, Outcome.thenDo_ok, Outcome.after_nil]
  exact outcome_step scheduler store state _ _

end Orchestrator

namespace Operation

variable {σ : Type} (scheduler : Scheduler σ) (store : Store) (state : σ)
variable (operation : Operation) (release : String) (session : Session) (group : Group)

/-- Without its rows an operation fails before any call of the scheduler. -/
theorem outcome_action_of_missing
    (missing : ¬ ∃ template account credential,
      store.Provides session group template account credential) :
    ∃ what, Action.outcome scheduler store state (operation.action release session group) =
      ⟨.error (.notFound what), store, state, []⟩ := by
  -- The template is looked up first, then the account, then the credential.
  rw [action_eq, Action.outcome_bind, Orchestrator.outcome_findTemplate]
  cases found : (store.templates.find? group.templateId).filter
      (·.accountId = session.accountId) with
  | none => exact ⟨_, rfl⟩
  | some template =>
      obtain ⟨templateFound, templateOwned⟩ := Option.filter_eq_some_iff.mp found
      rw [Outcome.thenDo_ok, Action.outcome_bind, Orchestrator.prepareJob, Action.outcome_bind,
        Orchestrator.outcome_jobDetails]
      cases accountFound : store.accounts.find? session.accountId with
      | none => exact ⟨_, rfl⟩
      | some account =>
          cases credentialFound : store.credentials.find? account.id with
          | none =>
              refine ⟨"triton credential for account " ++ account.id.text, ?_⟩
              simp [credentialFound]
          | some credential =>
              exact absurd ⟨template, account, credential, templateFound,
                by simpa using templateOwned, accountFound, credentialFound⟩ missing

/-- With its rows an operation has its job parsed and follows its stages. -/
theorem outcome_action_of_provides {template : Template} {account : Account}
    {credential : Credential}
    (provides : store.Provides session group template account credential) :
    ∃ details : Job.Details,
      details.Describes release session group.name (operation.count group) template account
        credential ∧
      ∃ result final calls,
        Action.outcome scheduler store state (operation.action release session group) =
          ⟨result, store, final, calls⟩ ∧
        scheduler.Performs operation details.render state result final calls := by
  obtain ⟨details, describes, prepared⟩ := Orchestrator.outcome_prepareJob_of_provides
    scheduler store state release session provides (operation.count group)
  have found : (store.templates.find? group.templateId).filter
      (·.accountId = session.accountId) = some template := by
    simp [provides.templateFound, provides.templateOwned]
  refine ⟨details, describes, ?_⟩
  rw [action_eq, Action.outcome_bind, Orchestrator.outcome_findTemplate, found,
    Outcome.thenDo_ok, Action.outcome_bind, prepared]
  rcases answered : scheduler.answer (.parse details.render) state with ⟨reason | job, next⟩
  · exact ⟨_, next, [.parse details.render], rfl, .unparsed answered⟩
  · obtain ⟨result, final, calls, run, follows⟩ :=
      Orchestrator.outcome_follow scheduler store next (operation.stages job)
    refine ⟨result, final, .parse details.render :: calls, ?_, .parsed answered follows⟩
    simp [Except.mapError, run]

/-- The ways an operation can end: a row is missing and the scheduler is not
called, a call is refused and names its step, or the whole sequence is granted. -/
inductive Ends : Outcome (Except Failure Unit) σ → Prop where
  | missing (what : String) : Ends ⟨.error (.notFound what), store, state, []⟩
  | refused (step : String) {reason : Failure} {call : JobsCall} {middle final : σ}
      (refusal : scheduler.answer call middle = (.error reason, final))
      (calls : List JobsCall) :
      Ends ⟨.error (.orchestrator step reason), store, final, calls⟩
  | completed {template : Template} {account : Account} {credential : Credential}
      {details : Job.Details} {final : σ} {calls : List JobsCall}
      (provides : store.Provides session group template account credential)
      (describes : details.Describes release session group.name (operation.count group)
        template account credential)
      (completes : scheduler.Completes operation details.render state final calls) :
      Ends ⟨.ok (), store, final, calls⟩

theorem action_ends :
    Ends scheduler store state operation release session group
      (Action.outcome scheduler store state (operation.action release session group)) := by
  by_cases present : ∃ template account credential,
      store.Provides session group template account credential
  · obtain ⟨template, account, credential, provides⟩ := present
    obtain ⟨details, describes, result, final, calls, run, performs⟩ :=
      outcome_action_of_provides scheduler store state operation release session group provides
    rw [run]
    cases result with
    | ok _ => exact .completed provides describes performs.completes
    | error failure =>
        obtain ⟨step, reason, call, middle, rfl, refusal⟩ := performs.refusal
        exact .refused step refusal calls
  · obtain ⟨what, run⟩ := outcome_action_of_missing scheduler store state operation release
      session group present
    rw [run]
    exact .missing what

/-- Every operation leaves the store alone.  It fails without a call of the
scheduler when a row that it needs is missing; otherwise it has the text of the
described job parsed and makes the calls of its stages with the parsed job, up to
and including the first that fails, which then names the failure. -/
theorem action_follows_sequence :
    let outcome :=
      Action.outcome scheduler store state (operation.action release session group)
    outcome.store = store ∧
      ((¬ ∃ template account credential,
          store.Provides session group template account credential) →
        ∃ what, outcome = ⟨.error (.notFound what), store, state, []⟩) ∧
      ∀ template account credential,
        store.Provides session group template account credential →
        ∃ details : Job.Details,
          details.Describes release session group.name (operation.count group) template
            account credential ∧
          scheduler.Performs operation details.render state outcome.result outcome.state
            outcome.calls := by
  intro outcome
  refine ⟨?_, ?_, ?_⟩
  · have ends : Ends scheduler store state operation release session group outcome :=
      action_ends scheduler store state operation release session group
    generalize outcome = ended at ends
    cases ends <;> rfl
  · exact outcome_action_of_missing scheduler store state operation release session group
  · intro template account credential provides
    obtain ⟨details, describes, result, final, calls, run, performs⟩ :=
      outcome_action_of_provides scheduler store state operation release session group provides
    have ended : outcome = ⟨result, store, final, calls⟩ := run
    rw [ended]
    exact ⟨details, describes, performs⟩

end Operation

end ServiceGroups
