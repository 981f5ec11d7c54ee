import ServiceGroups.Proofs.Http.Transition
import ServiceGroups.Proofs.Job.Naming
import ServiceGroups.Proofs.Ledger
import ServiceGroups.Proofs.Settings.Validity

/-!
# The store and the scheduler agree

A service that is run against a scheduler with a ledger keeps the two in agreement:
the ledger holds one job for each stored group and no other, and the job asks for
what the group and its template say.  Each request either moves both or leaves both.
-/

namespace ServiceGroups

namespace Store

/-- The identity of a group's job: the name of the group and the identity of its
account inside the cloud. -/
def jobId? (store : Store) (group : Group) : Option String :=
  (store.accounts.find? group.accountId).map fun account =>
    Orchestrator.jobName group.name account.cloudId

/-- No two accounts are the same inside the cloud. -/
def DistinctClouds (store : Store) : Prop :=
  ∀ id other account otherAccount, store.accounts.find? id = some account →
    store.accounts.find? other = some otherAccount →
    account.cloudId = otherAccount.cloudId → id = other

/-- Groups with the same job have the same owner and name, when accounts differ inside
the cloud. -/
theorem key_eq_of_jobId? {store : Store} (distinct : store.DistinctClouds)
    {group other : Group} {id : String} (named : store.jobId? group = some id)
    (otherNamed : store.jobId? other = some id) :
    (group.accountId, group.name) = (other.accountId, other.name) := by
  obtain ⟨account, present, name⟩ := Option.map_eq_some_iff.mp named
  obtain ⟨otherAccount, otherPresent, otherName⟩ := Option.map_eq_some_iff.mp otherNamed
  obtain ⟨names, clouds⟩ := Orchestrator.jobName_injective (name.trans otherName.symm)
  rw [distinct _ _ _ _ present otherPresent clouds, names]

/-- The jobs in the ledger are those of the stored groups, and they ask for what is
stored. -/
structure Agrees (store : Store) (jobs : Ledger) : Prop where
  registered : ∀ key group, store.groups.find? key = some group →
    ∃ id template job, store.jobId? group = some id ∧
      store.templates.find? group.templateId = some template ∧
      jobs.find? id = some job ∧ job.id = id ∧ job.AsksFor group template
  stored : ∀ id, jobs.contains id = true →
    ∃ key group, store.groups.find? key = some group ∧ store.jobId? group = some id

namespace Agrees

variable {store : Store} {jobs final : Ledger}

/-- The identities in the ledger are exactly those of the stored groups' jobs. -/
theorem contains_iff (agrees : store.Agrees jobs) (id : String) : jobs.contains id = true ↔
    ∃ key group, store.groups.find? key = some group ∧ store.jobId? group = some id := by
  refine ⟨agrees.stored id, ?_⟩
  rintro ⟨key, group, found, named⟩
  obtain ⟨id', template, job, named', used, entered, -⟩ := agrees.registered key group found
  obtain rfl : id = id' := Option.some.inj (named.symm.trans named')
  simp [Table.contains, entered]

/-- Entering the job of a group that is written keeps the agreement. -/
theorem write (agrees : store.Agrees jobs) (keyed : store.Keyed)
    (distinct : store.DistinctClouds) {group written : Group} {template : Template}
    {job : Job.Spec} (sameOwner : written.accountId = group.accountId)
    (sameName : written.name = group.name) (named : store.jobId? written = some job.id)
    (used : store.templates.find? written.templateId = some template)
    (asks : job.AsksFor written template)
    (entered : ∀ id, final.find? id = if id = job.id then some job else jobs.find? id) :
    Agrees { store with groups := store.groups.put (group.accountId, group.name) written }
      final := by
  have key : (written.accountId, written.name) = (group.accountId, group.name) := by
    rw [sameOwner, sameName]
  constructor
  · intro other row found
    rw [Table.find?_put] at found
    split at found
    · cases found
      exact ⟨job.id, template, job, named, used, by rw [entered, if_pos rfl], rfl, asks⟩
    · next different =>
        -- A group under another key has another job, which registering leaves alone.
        obtain ⟨id, template, job', named', used', entered', identity, asks'⟩ :=
          agrees.registered other row found
        have apart : id ≠ job.id := by
          rintro rfl
          have same := key_eq_of_jobId? distinct named' named
          rw [keyed.groups other row found] at same
          exact different (same.trans key)
        exact ⟨id, template, job', named', used', by rw [entered, if_neg apart, entered'],
          identity, asks'⟩
  · intro id present
    rw [Table.contains, entered] at present
    split at present
    · next same =>
        exact ⟨_, written, by rw [Table.find?_put, if_pos rfl], same ▸ named⟩
    · next different =>
        obtain ⟨other, row, found, named'⟩ := agrees.stored id present
        have apart : other ≠ (group.accountId, group.name) := by
          intro same
          rw [← keyed.groups other row found, ← key] at same
          have sameJob : store.jobId? row = store.jobId? written := by
            rw [jobId?, jobId?, (Prod.mk.inj same).1, (Prod.mk.inj same).2]
          rw [sameJob, named] at named'
          exact different (Option.some.inj named').symm
        exact ⟨other, row, by rw [Table.find?_put, if_neg apart, found], named'⟩

/-- Striking the job of a group that is deleted keeps the agreement. -/
theorem erase (agrees : store.Agrees jobs) (keyed : store.Keyed)
    (distinct : store.DistinctClouds) {key : AccountId × String} {group : Group}
    {identity : String} (found : store.groups.find? key = some group)
    (named : store.jobId? group = some identity)
    (struck : ∀ id, final.find? id = if id = identity then none else jobs.find? id) :
    Agrees { store with groups := store.groups.erase key } final := by
  constructor
  · intro other row present
    rw [Table.find?_erase] at present
    split at present
    · cases present
    · next different =>
        obtain ⟨id, template, job, named', used, entered, rest⟩ :=
          agrees.registered other row present
        have apart : id ≠ identity := by
          rintro rfl
          have same := key_eq_of_jobId? distinct named' named
          rw [keyed.groups other row present, keyed.groups key group found] at same
          exact different same
        exact ⟨id, template, job, named', used, by rw [struck, if_neg apart, entered], rest⟩
  · intro id present
    rw [Table.contains, struck] at present
    split at present
    · cases present
    · next different =>
        obtain ⟨other, row, held, named'⟩ := agrees.stored id present
        have apart : other ≠ key := by
          rintro rfl
          rw [found] at held
          cases held
          exact different (Option.some.inj (named'.symm.trans named))
        exact ⟨other, row, by rw [Table.find?_erase, if_neg apart, held], named'⟩

end Agrees

end Store

namespace Http

section Step

variable {σ : Type} {release : String} {moment : Moment} {scheduler : Scheduler σ}
variable {store next : Store} {state final : σ}

theorem Transition.accounts_eq
    (transition : Transition release moment scheduler store state next final) :
    next.accounts = store.accounts := by
  cases transition <;> rfl

/-- A request makes no template but that of its moment. -/
theorem Transition.template_absent
    (transition : Transition release moment scheduler store state next final) {id : Uuid}
    (other : id ≠ moment.freshId) (absent : store.templates.find? id = none) :
    next.templates.find? id = none := by
  cases transition with
  | unchanged | stopped | groupWritten | groupDeleted => exact absent
  | templateCreated template fresh keepsOwner =>
      rw [Table.find?_put, if_neg (fresh ▸ other), absent]
  | templateDeleted removed unused =>
      rw [Table.find?_erase, absent]
      split <;> rfl

end Step

section Ledger

variable {release : String} {moment : Moment} {store next : Store} {jobs final : Ledger}

/-- A request keeps the store and the ledger in agreement. -/
theorem Transition.agrees
    (transition : Transition release moment Ledger.scheduler store jobs next final)
    (valid : Settings.isRelease release = true) (keyed : store.Keyed)
    (distinct : store.DistinctClouds) (fresh : store.templates.find? moment.freshId = none)
    (agrees : store.Agrees jobs) : next.Agrees final := by
  cases transition with
  | unchanged => exact agrees
  | stopped refusal => exact absurd refusal (Ledger.answer_ne_error _ _ _ _)
  | templateCreated template identity keepsOwner =>
      refine ⟨fun key group found => ?_, agrees.stored⟩
      obtain ⟨id, used, job, named, present, entered⟩ := agrees.registered key group found
      have other : group.templateId ≠ template.id := by
        intro same
        rw [same, identity, fresh] at present
        cases present
      refine ⟨id, used, job, named, ?_, entered⟩
      rw [Table.find?_put, if_neg other, present]
  | templateDeleted removed unused =>
      refine ⟨fun key group found => ?_, agrees.stored⟩
      obtain ⟨id, used, job, named, present, entered⟩ := agrees.registered key group found
      have other : group.templateId ≠ removed := by
        intro same
        have inUse := Store.templateInUse_iff.mpr ⟨key, group, found, same⟩
        exact absurd (unused.symm.trans inUse) (by decide)
      refine ⟨id, used, job, named, ?_, entered⟩
      rw [Table.find?_erase, if_neg other, present]
  | @groupWritten operation registers session group template account _ details _ _ own
      provides describes completes =>
      have sound := describes.sound valid
      have identity := Job.job_id_of_sound sound
      have sameTemplate := keyed.templates _ template provides.templateFound
      have asks := Job.asksFor_of_describes describes sound sameTemplate
      have used := provides.templateFound
      rw [← Store.succeeding_templateId (store.groups.find? (group.accountId, group.name))]
        at used
      refine agrees.write keyed distinct (by simp) (by simp) ?_ used (asks.succeeding _)
        (Ledger.find?_of_registers registers completes)
      rw [identity, describes.jobName]
      simp [Store.jobId?, own, provides.accountFound, Orchestrator.jobName]
  | @groupDeleted session group template account _ details _ _ found provides describes
      completes =>
      have sound := describes.sound valid
      have identity := Job.job_id_of_sound sound
      have own : group.accountId = session.accountId :=
        congrArg Prod.fst (keyed.groups _ group found)
      refine agrees.erase keyed distinct found ?_ (Ledger.find?_of_deletes completes)
      rw [identity, describes.jobName]
      simp [Store.jobId?, own, provides.accountFound, Orchestrator.jobName]

end Ledger

namespace Service

/-- What an agent sets up from valid settings has a release that can stand in an address. -/
theorem isRelease_ofSettings {settings : Settings} (valid : settings.validate = .ok ())
    (authenticator : Authenticator) :
    Settings.isRelease (ofSettings settings authenticator).release = true :=
  (Settings.validate_eq_ok.mp valid).release

variable (service : Service)

/-- The store and the ledger that requests leave, handled one after another. -/
def serve : List (Moment × Request) → Store → Ledger → Store × Ledger
  | [], store, jobs => (store, jobs)
  | (moment, request) :: rest, store, jobs =>
    let outcome := (service.handle moment request).run Ledger.scheduler store jobs
    serve rest outcome.store outcome.state

/-- From a store and a ledger that agree, requests with fresh identities lead to a store
and a ledger that agree. -/
theorem agrees_serve (valid : Settings.isRelease service.release = true)
    (traffic : List (Moment × Request)) {store : Store} {jobs : Ledger} (keyed : store.Keyed)
    (distinct : store.DistinctClouds) (agrees : store.Agrees jobs)
    (once : (traffic.map fun sent => sent.1.freshId).Nodup)
    (fresh : ∀ sent ∈ traffic, store.templates.find? sent.1.freshId = none) :
    (service.serve traffic store jobs).1.Keyed ∧
      (service.serve traffic store jobs).1.DistinctClouds ∧
      (service.serve traffic store jobs).1.Agrees (service.serve traffic store jobs).2 := by
  -- The identities of later requests stay free, because a request makes no template but
  -- that of its own moment.
  induction traffic generalizing store jobs with
  | nil => exact ⟨keyed, distinct, agrees⟩
  | cons sent rest ih =>
      obtain ⟨moment, request⟩ := sent
      have transition := service.handle_transition moment request Ledger.scheduler jobs keyed
      have nextKeyed := Program.run_preserves (fun _ call keyed => keyed.perform call)
        (service.handle moment request) Ledger.scheduler store jobs keyed
      obtain ⟨notLater, laterOnce⟩ := List.nodup_cons.mp once
      refine ih nextKeyed ?_ ?_ laterOnce ?_
      · unfold Store.DistinctClouds
        rw [transition.accounts_eq]
        exact distinct
      · exact transition.agrees valid keyed distinct (fresh _ List.mem_cons_self) agrees
      · intro later member
        have other : later.1.freshId ≠ moment.freshId := fun same =>
          notLater (List.mem_map.mpr ⟨later, member, same⟩)
        exact transition.template_absent other (fresh later (List.mem_cons_of_mem _ member))

/-- Starting from accounts that differ inside the cloud, and their credentials, any
sequence of requests with fresh identities leaves a ledger that agrees with the store:
its identities are those of the stored groups' jobs, two groups have two jobs, and the
job of a group asks for what the group and its template say. -/
theorem store_and_ledger_agree (valid : Settings.isRelease service.release = true)
    (traffic : List (Moment × Request)) {store : Store} (only : store.OnlyAccounts)
    (distinct : store.DistinctClouds)
    (once : (traffic.map fun sent => sent.1.freshId).Nodup) :
    let served := service.serve traffic store .empty
    (∀ id, served.2.contains id = true ↔
        ∃ key group, served.1.groups.find? key = some group ∧
          served.1.jobId? group = some id) ∧
      (∀ key other group otherGroup id, served.1.groups.find? key = some group →
        served.1.groups.find? other = some otherGroup → served.1.jobId? group = some id →
        served.1.jobId? otherGroup = some id → key = other) ∧
      ∀ key group, served.1.groups.find? key = some group →
        ∃ id template job, served.1.jobId? group = some id ∧
          served.1.templates.find? group.templateId = some template ∧
          served.2.find? id = some job ∧ job.id = id ∧ job.AsksFor group template := by
  intro served
  have start : store.Agrees .empty := by
    constructor
    · intro key group found
      rw [only.noGroups] at found
      cases found
    · intro id present
      cases present
  have fresh : ∀ sent ∈ traffic, store.templates.find? sent.1.freshId = none := by
    intro sent _
    rw [only.noTemplates]
    rfl
  obtain ⟨keyed, apart, agrees⟩ :=
    service.agrees_serve valid traffic only.toKeyed distinct start once fresh
  refine ⟨agrees.contains_iff, ?_, agrees.registered⟩
  intro key other group otherGroup id found otherFound named otherNamed
  rw [← keyed.groups key group found, ← keyed.groups other otherGroup otherFound]
  exact Store.key_eq_of_jobId? apart named otherNamed

end Service

namespace Sample

/-- A tenant makes a template and a group of it, and then changes the group. -/
def traffic : List (Moment × Request) :=
  [(moment 7, templateRequest), (moment 8, groupRequest),
    (moment 9, request 1 "PUT" "/v1/tsg/web" "\x7b\"capacity\":3\x7d")]

theorem validate_settings : settings.validate = .ok () := by
  decide +kernel

theorem distinctClouds_twoTenants : twoTenants.DistinctClouds := by
  have same : ∀ id account, twoTenants.accounts.find? id = some account →
      account.cloudId = id.uuid :=
    Table.forall_find?_put (Table.forall_find?_put (by rintro _ _ ⟨⟩) rfl) rfl
  intro id other account otherAccount found otherFound clouds
  rw [same id account found, same other otherAccount otherFound] at clouds
  exact congrArg AccountId.mk clouds

theorem capacity_served : ((service.serve traffic twoTenants .empty).1.groups.find?
    (⟨⟨1⟩⟩, "web")).map Group.capacity = some 3 := by
  decide +kernel

end Sample

namespace Service

open Sample in
/-- In a sample, the job of a changed group asks for the new capacity. -/
theorem sample_ledger_agrees :
    Settings.isRelease service.release = true ∧ twoTenants.OnlyAccounts ∧
      twoTenants.DistinctClouds ∧ (traffic.map fun sent => sent.1.freshId).Nodup ∧
      ∃ id job, (service.serve traffic twoTenants .empty).2.find? id = some job ∧
        job.values "--count" = ["3"] := by
  have valid : Settings.isRelease service.release = true :=
    isRelease_ofSettings validate_settings permitAll
  have only : twoTenants.OnlyAccounts := Store.onlyAccounts_holding _
  have once : (traffic.map fun sent => sent.1.freshId).Nodup := by decide +kernel
  refine ⟨valid, only, distinctClouds_twoTenants, once, ?_⟩
  obtain ⟨-, -, registered⟩ :=
    store_and_ledger_agree service valid traffic only distinctClouds_twoTenants once
  obtain ⟨group, found, capacity⟩ := Option.map_eq_some_iff.mp capacity_served
  obtain ⟨id, template, job, named, used, entered, identity, asks⟩ := registered _ group found
  refine ⟨id, job, entered, ?_⟩
  rw [asks.count, capacity]
  decide +kernel

end Service

end Http

end ServiceGroups
