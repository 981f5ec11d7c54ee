import ServiceGroups.Proofs.Concurrency.Parts
import ServiceGroups.Proofs.Http.Effect

/-!
# What a handler does on the way

On a store at rest, a handler first reads, each table at most once, then drives the
scheduler, and then writes once.  Without a row that it needs it settles after the reads.
-/

namespace ServiceGroups

/-- The calls of an operation whose job has the given text. -/
def Operation.calls (operation : Operation) (text : String) : List JobsCall :=
  .parse text :: (operation.stages (Ledger.job text)).map Stage.call

section Operations

variable {store : Store} (release : String) (session : Session)

/-- The reads of an operation: the template, the account and its credential. -/
def rowReads (session : Session) (templateId : Uuid) (id : AccountId) : List StoreCall :=
  [.template session.accountId templateId, .account session.accountId, .credential id]

theorem walks_step (name : String) (call : JobsCall) :
    (Orchestrator.step name call).Walks store [.jobs call] (.settles (.ok (Ledger.reply call))) :=
  (Action.walks_askJobs call).mapFailure _

theorem walks_follow (stages : List Stage) :
    (Orchestrator.follow stages).Walks store ((stages.map Stage.call).map Call.jobs)
      (.settles (.ok ())) := by
  induction stages with
  | nil => exact Action.walks_pure ()
  | cons stage rest ih => exact (walks_step stage.name stage.call).bind_ok ih

variable (store) in
theorem walks_findTemplate (group : Group) :
    (Orchestrator.findTemplate session group).Walks store
      [.store (.template session.accountId group.templateId)]
      (.settles (((store.templates.find? group.templateId).filter
        (·.accountId = session.accountId)).elim
          (.error (.notFound ("template " ++ group.templateId.text))) Except.ok)) :=
  (Action.walks_askStore store (.template session.accountId group.templateId) rfl).bind_ok
    (Action.walks_require _ _)

variable {group : Group} {template : Template} {account : Account} {credential : Credential}

theorem walks_jobDetails
    (accountFound : store.accounts.find? session.accountId = some account)
    (credentialFound : store.credentials.find? account.id = some credential) :
    (Orchestrator.jobDetails release session template group).Walks store
      [.store (.account session.accountId), .store (.credential account.id)]
      (.settles (.ok (Orchestrator.fillDetails release session template group account
        credential))) := by
  have accountRead := Action.walks_askStore store (.account session.accountId) rfl
  rw [Store.perform_account, accountFound] at accountRead
  have credentialRead := Action.walks_askStore store (.credential account.id) rfl
  rw [Store.perform_credential, credentialFound] at credentialRead
  refine accountRead.bind_ok ((Action.walks_require _ (some account)).bind_ok ?_)
  exact credentialRead.bind_ok ((Action.walks_require _ (some credential)).bind_ok
    (Action.walks_pure _))

theorem walks_prepareJob (template : Template) (group : Group)
    (accountFound : store.accounts.find? session.accountId = some account)
    (credentialFound : store.credentials.find? account.id = some credential) :
    let details := Orchestrator.fillDetails release session template group account credential
    (Orchestrator.prepareJob release session template group).Walks store
      [.store (.account session.accountId), .store (.credential account.id),
        .jobs (.parse details.render)]
      (.settles (.ok (Ledger.job details.render))) :=
  (walks_jobDetails release session accountFound credentialFound).bind_ok (walks_step _ _)

/-- With its rows, an operation reads them, has its job parsed and follows its stages. -/
theorem walks_action_of_provides (operation : Operation)
    (provides : store.Provides session group template account credential) :
    ∃ details : Job.Details,
      details.Describes release session group.name (operation.count group) template account
        credential ∧
      (operation.action release session group).Walks store
        (callsOf (rowReads session group.templateId account.id)
          (operation.calls details.render))
        (.settles (.ok ())) := by
  refine ⟨_, Orchestrator.fillDetails_describes release session template
    { group with capacity := operation.count group } account credential, ?_⟩
  have found := walks_findTemplate store session group
  rw [provides.templateFound, Option.filter_some, if_pos (by simp [provides.templateOwned])]
    at found
  have prepared := walks_prepareJob release session template
    { group with capacity := operation.count group } provides.accountFound
    provides.credentialFound
  rw [Operation.action_eq]
  exact found.bind_ok (prepared.bind_ok (walks_follow _))

/-- Without its rows, an operation settles after some of the reads. -/
theorem walks_action_of_missing (operation : Operation)
    (missing : ¬ ∃ template account credential,
      store.Provides session group template account credential) :
    ∃ reads id failure, reads <+: rowReads session group.templateId id ∧
      (operation.action release session group).Walks store (callsOf reads [])
        (.settles (.error failure)) := by
  -- The template is looked up first, then the account, then the credential.
  have found := walks_findTemplate store session group
  have accountRead := Action.walks_askStore store (.account session.accountId) rfl
  rw [Operation.action_eq]
  cases looked : (store.templates.find? group.templateId).filter
      (·.accountId = session.accountId) with
  | none =>
      rw [looked] at found
      exact ⟨[.template session.accountId group.templateId], session.accountId, _, ⟨_, rfl⟩,
        found.bind_error⟩
  | some template =>
      rw [looked] at found
      obtain ⟨templateFound, templateOwned⟩ := Option.filter_eq_some_iff.mp looked
      rw [Store.perform_account] at accountRead
      cases accountFound : store.accounts.find? session.accountId with
      | none =>
          rw [accountFound] at accountRead
          have details (given : Group) :
              (Orchestrator.jobDetails release session template given).Walks store
                [.store (.account session.accountId)]
                (.settles (.error (.notFound ("account " ++ session.accountId.text)))) :=
            accountRead.bind_ok (Action.walks_require _ none).bind_error
          exact ⟨[.template session.accountId group.templateId, .account session.accountId],
            session.accountId, _, ⟨_, rfl⟩, found.bind_ok (details _).bind_error.bind_error⟩
      | some account =>
          rw [accountFound] at accountRead
          have credentialRead := Action.walks_askStore store (.credential account.id) rfl
          rw [Store.perform_credential] at credentialRead
          cases credentialFound : store.credentials.find? account.id with
          | none =>
              rw [credentialFound] at credentialRead
              have details (given : Group) :
                  (Orchestrator.jobDetails release session template given).Walks store
                    [.store (.account session.accountId), .store (.credential account.id)]
                    (.settles (.error (.notFound ("triton credential for account " ++
                      account.id.text)))) :=
                accountRead.bind_ok ((Action.walks_require _ (some account)).bind_ok
                  (credentialRead.bind_ok (Action.walks_require _ none).bind_error))
              exact ⟨rowReads session group.templateId account.id, account.id, _, ⟨_, rfl⟩,
                found.bind_ok (details _).bind_error.bind_error⟩
          | some credential =>
              exact absurd ⟨template, account, credential, templateFound,
                by simpa using templateOwned, accountFound, credentialFound⟩ missing

end Operations

namespace Http

/-- The answer to a write that ends a request. -/
def answering (call : StoreCall) (response : Response) (answer : Except Failure call.Reply) :
    Except Denial Response :=
  (answer.mapError .failed).map fun _ => response

/-- How a plan is carried out on a store at rest: the reads, the calls of the scheduler
and the ending. -/
inductive Plan.Course (release : String) (store : Store) :
    Plan → List StoreCall → List JobsCall → Ending (Except Denial Response) → Prop where
  | settles {reads : List StoreCall} (once : ReadsOnce reads)
      (result : Except Denial Response) :
      Course release store (.settle result) reads [] (.settles result)
  | lacks {operation : Operation} {session : Session} {group : Group} {call : StoreCall}
      {response : Response} {reads : List StoreCall} (once : ReadsOnce reads) (failure : Failure)
      (missing : ¬ ∃ template account credential,
        store.Provides session group template account credential) :
      Course release store (.change operation session group call response) reads []
        (.settles (.error (.failed failure)))
  | writes (call : StoreCall) (response : Response) :
      Course release store (.write call response) [] [] (.writes call (answering call response))
  | changes {operation : Operation} {session : Session} {group : Group} {call : StoreCall}
      {response : Response} {template : Template} {account : Account} {credential : Credential}
      {details : Job.Details}
      (provides : store.Provides session group template account credential)
      (describes : details.Describes release session group.name (operation.count group)
        template account credential) :
      Course release store (.change operation session group call response)
        (.group session.accountId group.name ::
          rowReads session group.templateId account.id)
        (operation.calls details.render)
        (.writes call (answering call response))

section Handlings

variable {store : Store} (release : String) (session : Session)

theorem readsOnce_group (name : String) (templateId : Uuid) (id : AccountId) :
    ReadsOnce (.group session.accountId name :: rowReads session templateId id) where
  areReads := by simp [rowReads, StoreCall.isRead]
  distinct := by simp [rowReads, StoreCall.part]

variable (store) in
theorem walks_ask (call : StoreCall) (kept : (store.perform call).2 = store) :
    (Handling.ask call).Walks store [.store call]
      (.settles ((store.perform call).1.mapError .failed)) :=
  (Action.walks_askStore store call kept).mapFailure _

theorem walks_write (call : StoreCall) (response : Response) :
    (Handling.ask call >>= fun _ => pure response : Handling Response).Walks store []
      (.writes call (answering call response)) := by
  have same : ExceptT.run (Handling.ask call >>= fun _ => pure response : Handling Response) =
      .step (.store call) fun answer => .done (answering call response answer) := by
    rw [ExceptT.run_bind]
    refine congrArg (Program.step (.store call)) (funext fun answer => ?_)
    cases answer <;> rfl
  unfold Action.Walks
  rw [same]
  exact .writes call _

theorem walks_loadGroup_of_missing {name : String}
    (missing : store.groups.find? (session.accountId, name) = none) :
    (loadGroup session name).Walks store [.store (.group session.accountId name)]
      (.settles (.error (.failed (.notFound ("service group " ++ name))))) := by
  have read := walks_ask store (.group session.accountId name) rfl
  rw [Store.perform_group, missing] at read
  exact read.bind_ok (Action.walks_throw _)

theorem walks_loadGroup_of_found {name : String} {group : Group}
    (found : store.groups.find? (session.accountId, name) = some group) :
    (loadGroup session name).Walks store [.store (.group session.accountId name)]
      (.settles (.ok group)) := by
  have read := walks_ask store (.group session.accountId name) rfl
  rw [Store.perform_group, found] at read
  exact read.bind_ok (Action.walks_pure _)

variable (store) in
/-- What follows a group that was read is carried out as planned. -/
theorem walks_change (operation : Operation) (group : Group) (call : StoreCall)
    (response : Response) {name : String} (named : group.name = name) :
    ∃ reads jobs ending,
      (Plan.handling release (.change operation session group call response)).Walks store
        (callsOf reads jobs) ending ∧
      Plan.Course release store (.change operation session group call response)
        (.group session.accountId name :: reads) jobs ending := by
  subst named
  by_cases provided : ∃ template account credential,
      store.Provides session group template account credential
  · obtain ⟨template, account, credential, provides⟩ := provided
    obtain ⟨details, describes, walks⟩ := walks_action_of_provides release session operation
      provides
    have whole : (Plan.handling release (.change operation session group call response)).Walks
        store _ (.writes call (answering call response)) :=
      (walks.mapFailure Denial.failed).bind_ok (walks_write call response)
    rw [List.append_nil] at whole
    exact ⟨_, _, _, whole, .changes provides describes⟩
  · obtain ⟨reads, id, failure, within, walks⟩ := walks_action_of_missing release session
      operation provided
    have once := (readsOnce_group session group.name group.templateId id).sublist
      (within.sublist.cons_cons _)
    exact ⟨_, _, _, (walks.mapFailure _).bind_error, .lacks once failure provided⟩

/-- A group that a request is about is read first; without it the request settles. -/
theorem course_withGroup {name : String} {next : Group → Handling Response} {plan : Group → Plan}
    (goesOn : ∀ group, store.groups.find? (session.accountId, name) = some group →
      ∃ reads jobs ending, (next group).Walks store (callsOf reads jobs) ending ∧
        (plan group).Course release store (.group session.accountId name :: reads) jobs ending) :
    ∃ reads jobs ending,
      (loadGroup session name >>= next).Walks store (callsOf reads jobs) ending ∧
        (Task.withGroup store session name plan).Course release store reads jobs ending := by
  rw [Task.withGroup]
  cases found : store.groups.find? (session.accountId, name) with
  | none =>
      exact ⟨[.group session.accountId name], [], _,
        (walks_loadGroup_of_missing session found).bind_error, .settles (readsOnce_single rfl) _⟩
  | some group =>
      obtain ⟨reads, jobs, ending, walks, course⟩ := goesOn group found
      exact ⟨.group session.accountId name :: reads, jobs, ending,
        (walks_loadGroup_of_found session found).bind_ok walks, course⟩

/-- A template that is shown is read first, whether it is there or not. -/
theorem course_showTemplate (moment : Moment) (id : Uuid) :
    ∃ reads jobs ending,
      ((Task.showTemplate session id).handling release moment).Walks store
        (callsOf reads jobs) ending ∧
      ((Task.showTemplate session id).plan moment store).Course release store reads jobs
        ending := by
  have read := walks_ask store (.template session.accountId id) rfl
  rw [Store.perform_template] at read
  rw [Task.handling, showTemplate, Task.plan]
  cases found : (store.templates.find? id).filter (·.accountId = session.accountId) with
  | none =>
      rw [found] at read
      exact ⟨[.template session.accountId id], [], _, read.bind_ok (Action.walks_throw _),
        .settles (readsOnce_single rfl) _⟩
  | some template =>
      rw [found] at read
      exact ⟨[.template session.accountId id], [], _, read.bind_ok (Action.walks_pure _),
        .settles (readsOnce_single rfl) _⟩

/-- A group is created under a name that is free: the name is looked up first. -/
theorem course_createGroup (moment : Moment) (draft : GroupDraft) :
    ∃ reads jobs ending,
      ((Task.createGroup session draft).handling release moment).Walks store
        (callsOf reads jobs) ending ∧
      ((Task.createGroup session draft).plan moment store).Course release store reads jobs
        ending := by
  rw [Task.handling, createGroup, Task.plan, Task.createGroupPlan]
  cases named : checkGroupName (Text.trim draft.name) with
  | error refusal => exact ⟨[], [], _, .settles _, .settles readsOnce_nil _⟩
  | ok _ =>
      cases sized : checkCapacity draft.capacity with
      | error refusal => exact ⟨[], [], _, .settles _, .settles readsOnce_nil _⟩
      | ok _ =>
          have read := walks_ask store (.group session.accountId (Text.trim draft.name)) rfl
          rw [Store.perform_group] at read
          cases free : store.groups.find? (session.accountId, Text.trim draft.name) with
          | some group =>
              rw [free] at read
              exact ⟨[.group session.accountId (Text.trim draft.name)], [], _,
                read.bind_ok (.settles _), .settles (readsOnce_single rfl) _⟩
          | none =>
              rw [free] at read
              let group := draft.group moment session (Text.trim draft.name)
              obtain ⟨reads, jobs, ending, walks, course⟩ := walks_change store release session
                .submit group (.insertGroup group) (.json 201 (Json.encode group)) rfl
              exact ⟨_, jobs, ending, read.bind_ok walks, course⟩

end Handlings

/-- Every task is carried out as planned. -/
theorem course_task (release : String) (moment : Moment) {store : Store} (keyed : store.Keyed)
    (task : Task) :
    ∃ reads jobs ending,
      (task.handling release moment).Walks store (callsOf reads jobs) ending ∧
        (task.plan moment store).Course release store reads jobs ending := by
  cases task with
  | settled result => exact ⟨[], [], _, .settles result, .settles readsOnce_nil _⟩
  | listGroups session page =>
      exact ⟨[.groups session.accountId page], [], _,
        (walks_ask _ _ rfl).bind_ok (Action.walks_pure _), .settles (readsOnce_single rfl) _⟩
  | createGroup session draft => exact course_createGroup release session moment draft
  | showGroup session name =>
      exact course_withGroup release session fun group found =>
        ⟨[], [], _, Action.walks_pure _, .settles (readsOnce_single rfl) _⟩
  | updateGroup session name change =>
      rw [Task.handling, updateGroup, Task.plan, Task.updateGroupPlan]
      cases checked : change.check with
      | error refusal => exact ⟨[], [], _, .settles _, .settles readsOnce_nil _⟩
      | ok _ =>
          refine course_withGroup release session fun group found => ?_
          have sameName : group.name = name := congrArg Prod.snd (keyed.groups _ _ found)
          let next := change.apply moment.now group
          exact walks_change store release session .update next (.upsertGroup next)
            (.json 200 (Json.encode next)) sameName
  | deleteGroup session name =>
      refine course_withGroup release session fun group found => ?_
      have sameName : group.name = name := congrArg Prod.snd (keyed.groups _ _ found)
      exact walks_change store release session .delete group
        (.deleteGroup session.accountId group.name) (.empty 204) sameName
  | listTemplates session page =>
      exact ⟨[.templates session.accountId page], [], _,
        (walks_ask _ _ rfl).bind_ok (Action.walks_pure _), .settles (readsOnce_single rfl) _⟩
  | createTemplate session draft =>
      rw [Task.handling, createTemplate, Task.plan, Task.createTemplatePlan]
      cases checked : draft.check with
      | error refusal => exact ⟨[], [], _, .settles _, .settles readsOnce_nil _⟩
      | ok _ => exact ⟨[], [], _, walks_write _ _, .writes _ _⟩
  | showTemplate session id => exact course_showTemplate release session moment id
  | deleteTemplate session id => exact ⟨[], [], _, walks_write _ _, .writes _ _⟩

end Http

end ServiceGroups
