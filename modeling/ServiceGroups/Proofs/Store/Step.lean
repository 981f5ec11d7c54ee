import ServiceGroups.Proofs.Store.Calls

/-!
# What one call can do to a store

Whatever a store is asked, it either stays as it is or changes one table in one
of six ways, each under conditions that the call has checked.  The account a call
is made for owns the row that changes.  Every invariant of the store is a case
analysis over these ways, and an invariant of single calls is one of whole
programs.
-/

namespace ServiceGroups

/-- The account a call is made for: the one it names, or the owner of the row it
writes. -/
def StoreCall.owner : StoreCall → AccountId
  | .upsertAccount row => row.id
  | .account id => id
  | .upsertCredential row => row.accountId
  | .credential id => id
  | .upsertTemplate row => row.accountId
  | .template owner _ => owner
  | .templates owner _ => owner
  | .deleteTemplate owner _ => owner
  | .insertGroup row => row.accountId
  | .upsertGroup row => row.accountId
  | .group owner _ => owner
  | .groups owner _ => owner
  | .deleteGroup owner _ => owner

namespace Store

/-- What one call made for an account can turn a store into. -/
inductive Step (owner : AccountId) (store : Store) : Store → Prop where
  | unchanged : Step owner store store
  | putAccount (account : Account) (own : account.id = owner) :
      Step owner store { store with accounts := store.accounts.put account.id account }
  | putCredential (credential : Credential) (own : credential.accountId = owner)
      (holder : store.accounts.contains owner) :
      Step owner store
        { store with credentials := store.credentials.put credential.accountId credential }
  | putTemplate (template : Template) (own : template.accountId = owner)
      (holder : store.accounts.contains owner)
      (keepsOwner : ∀ old, store.templates.find? template.id = some old →
        old.accountId = owner) :
      Step owner store { store with templates := store.templates.put template.id template }
  | eraseTemplate (id : Uuid) (template : Template)
      (present : store.templates.find? id = some template)
      (own : template.accountId = owner) (unused : store.templateInUse id = false) :
      Step owner store { store with templates := store.templates.erase id }
  | putGroup (group : Group) (own : group.accountId = owner)
      (holder : store.accounts.contains owner) :
      Step owner store
        { store with groups := store.groups.put (group.accountId, group.name) group }
  | eraseGroup (name : String) :
      Step owner store { store with groups := store.groups.erase (owner, name) }

variable (store : Store)

theorem requireAccount_eq_ok {id : AccountId} {done : Unit} :
    store.requireAccount id = .ok done ↔ store.accounts.contains id := by
  unfold requireAccount
  split <;> simp [*]

theorem perform_of_refused (call : StoreCall) {failure : Failure}
    (refused : store.precheck call = .error failure) :
    store.perform call = (.error failure, store) := by
  rw [perform, refused]

theorem perform_of_checked (call : StoreCall) (checked : store.precheck call = .ok ()) :
    store.perform call = store.commit call := by
  rw [perform, checked]

theorem perform_eq_ok {call : StoreCall} {reply : call.Reply} {next : Store} :
    store.perform call = (.ok reply, next) ↔
      store.precheck call = .ok () ∧ store.commit call = (.ok reply, next) := by
  cases checking : store.precheck call with
  | error failure => simp [store.perform_of_refused call checking]
  | ok _ => simp [store.perform_of_checked call checking]

/-- A call that fails in its second section has not touched the table it works on. -/
theorem commit_of_error {call : StoreCall} {failure : Failure} {next : Store}
    (failed : store.commit call = (.error failure, next)) : next = store := by
  cases call with
  | upsertTemplate template =>
      simp only [commit, putTemplate] at failed
      split at failed <;> cases failed
      rfl
  | deleteTemplate owner id =>
      simp only [commit, dropTemplate] at failed
      split at failed <;> cases failed
      rfl
  | insertGroup group =>
      simp only [commit, addGroup] at failed
      split at failed <;> cases failed
      rfl
  | deleteGroup owner name =>
      simp only [commit, dropGroup] at failed
      split at failed <;> cases failed
      rfl
  | _ => cases failed

theorem perform_of_error {call : StoreCall} {failure : Failure} {next : Store}
    (failed : store.perform call = (.error failure, next)) : next = store := by
  cases checking : store.precheck call with
  | error refusal =>
      rw [store.perform_of_refused call checking] at failed
      exact (Prod.mk.inj failed).2.symm
  | ok _ =>
      rw [store.perform_of_checked call checking] at failed
      exact store.commit_of_error failed

theorem requireAccount_of_contains {owner : AccountId}
    (held : store.accounts.contains owner) :
    store.requireAccount owner = .ok () :=
  if_pos held

theorem requireAccount_of_missing {owner : AccountId}
    (missing : store.accounts.contains owner = false) :
    store.requireAccount owner = .error (.conflict ("account " ++ owner.text ++
      " does not exist")) :=
  if_neg (by simp [missing])

/-- A template that is put takes no identity from another account. -/
theorem putTemplate_eq_ok {template : Template} {reply : Unit} {next : Store}
    (committed : store.putTemplate template = (.ok reply, next)) :
    next = { store with templates := store.templates.put template.id template } ∧
      ∀ old, store.templates.find? template.id = some old →
        old.accountId = template.accountId := by
  unfold putTemplate at committed
  split at committed
  · cases committed
  · next free =>
      cases committed
      exact ⟨rfl, fun old found => by simpa [found] using free⟩

theorem putTemplate_step {template : Template} {reply : Unit} {next : Store}
    (holder : store.accounts.contains template.accountId)
    (committed : store.putTemplate template = (.ok reply, next)) :
    store.Step template.accountId next := by
  obtain ⟨rfl, keepsOwner⟩ := store.putTemplate_eq_ok committed
  exact .putTemplate template rfl holder keepsOwner

theorem dropTemplate_eq_ok {owner : AccountId} {id : Uuid} {reply : Unit} {next : Store}
    (committed : store.dropTemplate owner id = (.ok reply, next)) :
    next = { store with templates := store.templates.erase id } ∧
      ∃ template, store.templates.find? id = some template ∧ template.accountId = owner := by
  unfold dropTemplate at committed
  split at committed
  · next present =>
      cases committed
      obtain ⟨template, found, own⟩ := Option.any_eq_true _ _ |>.mp present
      exact ⟨rfl, template, found, by simpa using own⟩
  · cases committed

theorem precheck_deleteTemplate {owner : AccountId} {id : Uuid}
    (checked : store.precheck (.deleteTemplate owner id) = .ok ()) :
    store.templateInUse id = false := by
  simp only [precheck] at checked
  split at checked
  · cases checked
  · next unused => simpa using unused

theorem dropTemplate_step {owner : AccountId} {id : Uuid} {reply : Unit} {next : Store}
    (unused : store.templateInUse id = false)
    (committed : store.dropTemplate owner id = (.ok reply, next)) : store.Step owner next := by
  obtain ⟨rfl, template, found, own⟩ := store.dropTemplate_eq_ok committed
  exact .eraseTemplate id template found own unused

theorem addGroup_eq_ok {group : Group} {reply : Unit} {next : Store}
    (committed : store.addGroup group = (.ok reply, next)) :
    next = { store with
      groups := store.groups.put (group.accountId, group.name) group } ∧
      store.groups.contains (group.accountId, group.name) = false := by
  unfold addGroup at committed
  split at committed
  · cases committed
  · next free =>
      cases committed
      exact ⟨rfl, by simpa using free⟩

theorem addGroup_step {group : Group} {reply : Unit} {next : Store}
    (holder : store.accounts.contains group.accountId)
    (committed : store.addGroup group = (.ok reply, next)) :
    store.Step group.accountId next := by
  obtain ⟨rfl, _⟩ := store.addGroup_eq_ok committed
  exact .putGroup group rfl holder

@[simp]
theorem succeeding_accountId (existing : Option Group) (group : Group) :
    (succeeding existing group).accountId = group.accountId := by
  cases existing <;> rfl

@[simp]
theorem succeeding_name (existing : Option Group) (group : Group) :
    (succeeding existing group).name = group.name := by
  cases existing <;> rfl

@[simp]
theorem succeeding_templateId (existing : Option Group) (group : Group) :
    (succeeding existing group).templateId = group.templateId := by
  cases existing <;> rfl

@[simp]
theorem succeeding_capacity (existing : Option Group) (group : Group) :
    (succeeding existing group).capacity = group.capacity := by
  cases existing <;> rfl

theorem putGroup_step {group : Group} {reply : Unit} {next : Store}
    (holder : store.accounts.contains group.accountId)
    (committed : store.putGroup group = (.ok reply, next)) :
    store.Step group.accountId next := by
  cases committed
  generalize store.groups.find? (group.accountId, group.name) = existing
  have own : (succeeding existing group).accountId = group.accountId :=
    succeeding_accountId existing group
  have step : store.Step group.accountId _ := .putGroup (succeeding existing group) own holder
  rwa [own, succeeding_name] at step

theorem dropGroup_eq_ok {owner : AccountId} {name : String} {reply : Unit} {next : Store}
    (committed : store.dropGroup owner name = (.ok reply, next)) :
    next = { store with groups := store.groups.erase (owner, name) } ∧
      store.groups.contains (owner, name) = true := by
  unfold dropGroup at committed
  split at committed
  · next present =>
      cases committed
      exact ⟨rfl, present⟩
  · cases committed

theorem dropGroup_step {owner : AccountId} {name : String} {reply : Unit} {next : Store}
    (committed : store.dropGroup owner name = (.ok reply, next)) : store.Step owner next := by
  obtain ⟨rfl, _⟩ := store.dropGroup_eq_ok committed
  exact .eraseGroup name

/-- A call makes one of the steps that its account allows. -/
theorem perform_step (call : StoreCall) : store.Step call.owner (store.perform call).2 := by
  rcases performed : store.perform call with ⟨failure | reply, next⟩
  · rw [store.perform_of_error performed]
    exact .unchanged
  · obtain ⟨checked, committed⟩ := store.perform_eq_ok.mp performed
    cases call with
    | upsertAccount account =>
        cases committed
        exact .putAccount account rfl
    | upsertCredential credential =>
        cases committed
        exact .putCredential credential rfl (store.requireAccount_eq_ok.mp checked)
    | upsertTemplate template =>
        exact store.putTemplate_step (store.requireAccount_eq_ok.mp checked) committed
    | deleteTemplate owner id =>
        exact store.dropTemplate_step (store.precheck_deleteTemplate checked) committed
    | insertGroup group =>
        exact store.addGroup_step (store.requireAccount_eq_ok.mp checked) committed
    | upsertGroup group =>
        exact store.putGroup_step (store.requireAccount_eq_ok.mp checked) committed
    | deleteGroup owner name => exact store.dropGroup_step committed
    | account | credential | template | templates | group | groups =>
        cases committed
        exact .unchanged

end Store

end ServiceGroups
