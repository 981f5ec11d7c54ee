import ServiceGroups.Proofs.Http.Confidentiality
import ServiceGroups.Proofs.Http.GroupNames
import ServiceGroups.Proofs.Text.Blank

/-!
# Well-formed stores

The store checks neither names nor references.  That every group can be spelt in an
address, is small enough, and has its account, its credential and its template is due
to the checks of requests, the lookups of operations and the check before a template is
deleted together.  What a group needs for its deletion is therefore always there, and
no group is ever stuck.
-/

namespace ServiceGroups

/-- The group has a name and a capacity that pass the checks of requests. -/
structure Group.Sound (group : Group) : Prop where
  named : Http.IsWellNamed group.name
  sized : group.capacity.toNat ≤ 2147483647

theorem Group.Sound.succeeding {group : Group} (sound : group.Sound) (existing : Option Group) :
    (Store.succeeding existing group).Sound where
  named := by rw [Store.succeeding_name]; exact sound.named
  sized := by rw [Store.succeeding_capacity]; exact sound.sized

/-- The fields of the template are filled in and tidy. -/
structure Template.Sound (template : Template) : Prop where
  name : Text.IsTidy template.name
  package : Text.IsTidy template.package
  imageId : Text.IsTidy template.imageId
  networks : ∀ network ∈ template.networks, Text.isAllBlank network = false
  userData : template.userData ≠ some ""

/-- Every group and every template is sound, and every group has its account, the
account's credential, and a template of the same account. -/
structure Store.WellFormed (store : Store) : Prop where
  groups : ∀ key group, store.groups.find? key = some group → group.Sound
  housed : ∀ key group, store.groups.find? key = some group →
    (∃ account, store.accounts.find? group.accountId = some account) ∧
      ∃ credential, store.credentials.find? group.accountId = some credential
  supplied : store.Supplied
  templates : ∀ id template, store.templates.find? id = some template → template.Sound

/-- A group that is written has been checked, and the operation before the write has found
its account and credential. -/
theorem Store.WellFormed.putGroup {store : Store} (wellFormed : store.WellFormed)
    (keyed : store.Keyed)
    {session : Session} {group : Group} {template : Template} {account : Account}
    {credential : Credential} (sound : group.Sound) (own : group.accountId = session.accountId)
    (provides : store.Provides session group template account credential)
    (existing : Option Group) (key : AccountId × String)
    (supplied : Store.Supplied
      { store with groups := store.groups.put key (Store.succeeding existing group) }) :
    Store.WellFormed
      { store with groups := store.groups.put key (Store.succeeding existing group) } := by
  have held : account.id = group.accountId :=
    (keyed.accounts _ account provides.accountFound).trans own.symm
  have accountFound := provides.accountFound
  have credentialFound := provides.credentialFound
  rw [← own] at accountFound
  rw [held] at credentialFound
  refine { wellFormed with
    groups := Table.forall_find?_put wellFormed.groups (sound.succeeding existing)
    housed := Table.forall_find?_put wellFormed.housed ?_
    supplied }
  rw [Store.succeeding_accountId]
  exact ⟨⟨account, accountFound⟩, credential, credentialFound⟩

/-- In a well-formed store nothing is missing that the deletion of a group looks up. -/
theorem Store.WellFormed.exists_provides {store : Store} (wellFormed : store.WellFormed)
    (keyed : store.Keyed) {session : Session} {key : AccountId × String} {group : Group}
    (found : store.groups.find? key = some group) (own : session.accountId = group.accountId) :
    ∃ template account credential, store.Provides session group template account credential := by
  obtain ⟨⟨account, accountFound⟩, credential, credentialFound⟩ := wellFormed.housed key group found
  obtain ⟨template, templateFound, templateOwned⟩ := wellFormed.supplied key group found
  have held : account.id = group.accountId := keyed.accounts _ account accountFound
  refine ⟨template, account, credential, templateFound, templateOwned.trans own.symm, ?_, ?_⟩
  · rw [own, accountFound]
  · rw [held, credentialFound]

namespace Http

section Checks

theorem sized_of_checkCapacity {capacity : UInt32} (checked : checkCapacity capacity = .ok ()) :
    capacity.toNat ≤ 2147483647 := by
  unfold checkCapacity at checked
  split at checked
  · assumption
  · cases checked

theorem sized_of_check {change : GroupChange} (checked : change.check = .ok ()) {group : Group}
    (sized : group.capacity.toNat ≤ 2147483647) (now : Instant) :
    (change.apply now group).capacity.toNat ≤ 2147483647 := by
  rw [GroupChange.apply]
  cases asked : change.capacity with
  | none => exact sized
  | some capacity =>
      rw [GroupChange.check, asked] at checked
      exact sized_of_checkCapacity checked

theorem checkPresent_eq_ok {field value : String} :
    checkPresent field value = .ok () ↔ Text.isAllBlank value = false := by
  unfold checkPresent
  cases Text.isAllBlank value <;> simp

/-- Of checks made one after another, each has passed. -/
theorem checks_eq_ok {ε : Type} {first rest : Except ε Unit}
    (checked : (do first; rest) = .ok ()) : first = .ok () ∧ rest = .ok () := by
  cases first with
  | error refusal => cases checked
  | ok _ => exact ⟨rfl, checked⟩

theorem TemplateDraft.check_eq_ok {draft : TemplateDraft} (checked : draft.check = .ok ()) :
    Text.isAllBlank draft.name = false ∧ Text.isAllBlank draft.package = false ∧
      Text.isAllBlank draft.imageId = false ∧
      ∀ network ∈ draft.networks, Text.isAllBlank network = false := by
  obtain ⟨named, checked⟩ := checks_eq_ok checked
  obtain ⟨packaged, checked⟩ := checks_eq_ok checked
  obtain ⟨pictured, linked⟩ := checks_eq_ok checked
  split at linked
  · cases linked
  next present =>
    refine ⟨checkPresent_eq_ok.mp named, checkPresent_eq_ok.mp packaged,
      checkPresent_eq_ok.mp pictured, fun network member => ?_⟩
    exact Bool.eq_false_iff.mpr fun blank =>
      present (List.any_eq_true.mpr ⟨network, member, blank⟩)

theorem TemplateDraft.sound_of_check {draft : TemplateDraft} (checked : draft.check = .ok ())
    (moment : Moment) (session : Session) : (draft.template moment session).Sound := by
  obtain ⟨named, packaged, pictured, linked⟩ := check_eq_ok checked
  refine ⟨Text.isTidy_trim named, Text.isTidy_trim packaged, Text.isTidy_trim pictured, linked,
    fun blank => ?_⟩
  obtain ⟨-, present⟩ := Option.filter_eq_some_iff.mp blank
  simp at present

end Checks

section Requests

variable {σ : Type} {release : String} {moment : Moment} {scheduler : Scheduler σ}
variable {store : Store} {state : σ}

theorem Effect.wellFormed {plan : Plan} {outcome : Outcome (Except Denial Response) σ}
    (effect : Effect release scheduler store state plan outcome)
    (arises : plan.Arises moment store) (keyed : store.Keyed) (wellFormed : store.WellFormed) :
    outcome.store.WellFormed := by
  have supplied := (effect.transition arises keyed).supplied wellFormed.supplied
  cases effect with
  | settled | denied | stopped => exact wellFormed
  | wrote performed =>
      cases arises with
      | createTemplate session draft checked =>
          obtain ⟨-, committed⟩ := store.perform_eq_ok.mp performed
          obtain ⟨rfl, -⟩ := store.putTemplate_eq_ok committed
          have sound := TemplateDraft.sound_of_check checked moment session
          exact { wellFormed with
            templates := Table.forall_find?_put wellFormed.templates sound
            supplied }
      | deleteTemplate session id =>
          obtain ⟨-, committed⟩ := store.perform_eq_ok.mp performed
          obtain ⟨rfl, -⟩ := store.dropTemplate_eq_ok committed
          exact { wellFormed with
            templates := fun _ _ found =>
              wellFormed.templates _ _ (Table.find?_of_find?_erase found)
            supplied }
  | @changed _ session group _ _ _ _ _ _ _ _ _ _ provides describes completes performed =>
      have holder := provides.holder
      cases arises with
      | createGroup _ draft name named sized free =>
          rw [perform_insertGroup holder free] at performed
          obtain rfl : _ = _ := congrArg Prod.snd performed
          have sound : (draft.group moment session name).Sound :=
            ⟨isWellNamed_of_checkGroupName named, sized_of_checkCapacity sized⟩
          exact wellFormed.putGroup keyed sound rfl provides none _ supplied
      | updateGroup _ change name old checked found =>
          have own : old.accountId = session.accountId :=
            congrArg Prod.fst (keyed.groups _ old found)
          rw [perform_upsertGroup (by simpa [GroupChange.apply, own] using holder)] at performed
          obtain rfl : _ = _ := congrArg Prod.snd performed
          have soundBefore := wellFormed.groups _ old found
          have sound : (change.apply moment.now old).Sound :=
            ⟨soundBefore.named, sized_of_check checked soundBefore.sized moment.now⟩
          exact wellFormed.putGroup keyed sound own provides _ _ supplied
      | deleteGroup _ name _ found =>
          obtain rfl : group.name = name := congrArg Prod.snd (keyed.groups _ group found)
          rw [perform_deleteGroup found] at performed
          obtain rfl : _ = _ := congrArg Prod.snd performed
          exact { wellFormed with
            groups := fun _ _ found => wellFormed.groups _ _ (Table.find?_of_find?_erase found)
            housed := fun _ _ found => wellFormed.housed _ _ (Table.find?_of_find?_erase found)
            supplied }

/-- Handling a request keeps the store well-formed. -/
theorem Service.handle_wellFormed (service : Service) (moment : Moment) (request : Request)
    (scheduler : Scheduler σ) (state : σ) (keyed : store.Keyed) (wellFormed : store.WellFormed) :
    ((service.handle moment request).run scheduler store state).store.WellFormed := by
  have arises := (service.task moment request).plan_arises moment store
  have effect := arises.effect scheduler state keyed service.release
  rw [service.run_handle, outcome_task]
  exact effect.wellFormed arises keyed wellFormed

end Requests

theorem Served.wellFormed {store : Store} (served : Served store) : store.WellFormed := by
  induction served with
  | @start store only =>
      have noGroup (key : AccountId × String) (group : Group) :
          store.groups.find? key ≠ some group := by
        rw [only.noGroups]
        exact fun found => nomatch found
      have noTemplate (id : Uuid) (template : Template) :
          store.templates.find? id ≠ some template := by
        rw [only.noTemplates]
        exact fun found => nomatch found
      exact ⟨fun key group found => absurd found (noGroup key group),
        fun key group found => absurd found (noGroup key group), (Served.start only).supplied,
        fun id template found => absurd found (noTemplate id template)⟩
  | request before service moment request scheduler state ih =>
      exact service.handle_wellFormed moment request scheduler state before.keyed ih

/-- The request is an accepted one of the account to delete the group of the name. -/
structure Service.Deletes (service : Service) (request : Request) (owner : AccountId)
    (name : String) : Prop where
  accepted : service.accepts request = true
  configured : service.defaults.isSome = true
  method : request.method = "DELETE"
  account : requestAccount request.headers = .ok owner
  address : ∃ segment, Route.ofTarget? request.target = some (.group segment) ∧
    Text.percentDecode? segment = some name

theorem Service.Deletes.task {service : Service} {request : Request} {owner : AccountId}
    {name : String} (deletes : service.Deletes request owner name) (moment : Moment) :
    ∃ session, session.accountId = owner ∧
      service.task moment request = .deleteGroup session name := by
  obtain ⟨segment, leads, decoded⟩ := deletes.address
  obtain ⟨cloud, configured⟩ := Option.isSome_iff_exists.mp deletes.configured
  have route : service.route? request = some (.group segment) := by
    rw [Service.route?, leads]
    rfl
  have served : serves (.group segment) request = true := by
    rw [serves, deletes.method]
    rfl
  have reading : readSegment segment = .ok name := by rw [readSegment, decoded]
  obtain ⟨session, own, read⟩ : ∃ session, session.accountId = owner ∧
      requestSession service.defaults request.headers = .ok session := by
    rw [requestSession, deletes.account, configured]
    exact ⟨_, rfl, rfl⟩
  refine ⟨session, own, ?_⟩
  rw [Service.task, route]
  simp only [deletes.accepted, Bool.not_true, Bool.and_false, Bool.false_eq_true, if_false]
  rw [Service.innerTask, if_pos served, Service.readTask, read, reading, deletes.method]
  rfl

/-- If the scheduler grants every call, a request to delete a group deletes it. -/
theorem Service.Deletes.completes {σ : Type} {service : Service} {request : Request}
    {scheduler : Scheduler σ} {store : Store} {state : σ} {key : AccountId × String}
    {group : Group} (deletes : service.Deletes request group.accountId group.name)
    (moment : Moment) (wellFormed : store.WellFormed) (keyed : store.Keyed)
    (found : store.groups.find? key = some group)
    (granted : scheduler.Grants ((service.handle moment request).run scheduler store state).calls
      state ((service.handle moment request).run scheduler store state).state) :
    ((service.handle moment request).run scheduler store state).result.status = 204 ∧
      ((service.handle moment request).run scheduler store state).store =
        { store with groups := store.groups.erase key } := by
  obtain ⟨session, own, asks⟩ := deletes.task moment
  obtain rfl := keyed.groups key group found
  obtain ⟨template, account, credential, provides⟩ :=
    wellFormed.exists_provides keyed found own
  obtain ⟨details, -, result, final, calls, run, performs⟩ :=
    Operation.outcome_action_of_provides scheduler store state .delete service.release session
      group provides
  have foundAgain : store.groups.find? (session.accountId, group.name) = some group := by
    rw [own, found]
  have planned : (service.task moment request).plan moment store =
      .change .delete session group (.deleteGroup session.accountId group.name) (.empty 204) := by
    rw [asks, Task.plan, Task.withGroup, foundAgain]
  rw [service.run_handle, outcome_task, planned] at granted ⊢
  -- Whether or not the operation succeeds, its calls are all that are made.
  have succeeds : result = .ok () := by
    cases result with
    | ok _ => rfl
    | error failure =>
        rw [outcome_change_of_error scheduler store state service.release run] at granted
        exact performs.eq_ok_of_grants granted
  rw [succeeds] at run
  rw [outcome_change_of_ok scheduler store state service.release run,
    perform_deleteGroup foundAgain, own]
  exact ⟨by rw [Outcome.map_mk, finish_status]; rfl, rfl⟩

/-- A store that requests have led to from accounts and credentials alone is
well-formed, and none of its groups is stuck: the group is found under the address that
its name spells, and a request of its account to delete it removes it and is answered
with 204 if the scheduler grants every call. -/
theorem Served.wellFormed_and_deletable {store : Store} (served : Served store) :
    store.WellFormed ∧
      ∀ key group, store.groups.find? key = some group →
        (Route.ofTarget? ("/v1/tsg/" ++ group.name) = some (.group group.name) ∧
          Text.percentDecode? group.name = some group.name) ∧
        ∀ (service : Service) (moment : Moment) (request : Request) {σ : Type}
          (scheduler : Scheduler σ) (state : σ),
          service.Deletes request group.accountId group.name →
          let outcome := (service.handle moment request).run scheduler store state
          scheduler.Grants outcome.calls state outcome.state →
          outcome.result.status = 204 ∧
            outcome.store = { store with groups := store.groups.erase key } := by
  have wellFormed := served.wellFormed
  refine ⟨wellFormed, fun key group found => ?_⟩
  have named := (wellFormed.groups key group found).named
  refine ⟨⟨named.ofTarget?, named.percentDecode?⟩, ?_⟩
  intro service moment request σ scheduler state deletes outcome granted
  exact deletes.completes moment wellFormed served.keyed found granted

namespace Sample

/-- The group that the first tenant has made. -/
def web : Group :=
  ⟨⟨8⟩, ⟨⟨1⟩⟩, "web", ⟨7⟩, 1, .epoch, .epoch⟩

theorem grants_granting (calls : List JobsCall) (start final : Unit) :
    granting.Grants calls start final := by
  induction calls with
  | nil => exact .nil start
  | cons call rest ih => cases call <;> exact .cons rfl ih

end Sample

open Sample in
/-- The group of the first tenant is removed when the tenant asks for it. -/
theorem group_of_tenant_is_deletable :
    Served withGroup ∧ withGroup.groups.find? (⟨⟨1⟩⟩, "web") = some web ∧
      service.Deletes groupDeletion web.accountId web.name ∧
      granting.Grants afterGroupDeletion.calls () afterGroupDeletion.state ∧
      afterGroupDeletion.result.status = 204 ∧
      afterGroupDeletion.store =
        { withGroup with groups := withGroup.groups.erase (⟨⟨1⟩⟩, "web") } := by
  have found : withGroup.groups.find? (⟨⟨1⟩⟩, "web") = some web := by decide +kernel
  have deletes : service.Deletes groupDeletion web.accountId web.name := by
    refine ⟨rfl, rfl, rfl, ?_, "web", ?_, ?_⟩ <;> decide +kernel
  have deletable := (Served.wellFormed_and_deletable served_withGroup).2 _ web found
  rw [afterGroupDeletion]
  exact ⟨served_withGroup, found, deletes, grants_granting _ _ _,
    deletable.2 service (moment 9) groupDeletion granting () deletes (grants_granting _ _ _)⟩

end Http

end ServiceGroups
