import ServiceGroups.Proofs.Store.Step

/-!
# What a write can do to a store

The second section of a call relies on what the first has checked, but for most
invariants only one thing matters: the account of a row that is written is there.  Such
writes are fewer cases than the steps of whole calls, and every step is one of them.
-/

namespace ServiceGroups

/-- The account that must exist for the call. -/
def StoreCall.required? : StoreCall → Option AccountId
  | .upsertCredential row => some row.accountId
  | .upsertTemplate row => some row.accountId
  | .insertGroup row => some row.accountId
  | .upsertGroup row => some row.accountId
  | _ => none

namespace Store

variable {store next : Store}

/-- The account that the call requires, if it requires one, is there. -/
def Hosts (store : Store) (call : StoreCall) : Prop :=
  ∀ id, call.required? = some id → store.accounts.contains id

theorem hosts_of_precheck {call : StoreCall} (checked : store.precheck call = .ok ()) :
    store.Hosts call := by
  intro id required
  cases call <;> cases required <;> exact store.requireAccount_eq_ok.mp checked

/-- What one write can turn a store into, if the account of the row that is written is
there. -/
inductive Write (store : Store) : Store → Prop where
  | unchanged : Write store store
  | putAccount (account : Account) :
      Write store { store with accounts := store.accounts.put account.id account }
  | putCredential (credential : Credential)
      (holder : store.accounts.contains credential.accountId) :
      Write store
        { store with credentials := store.credentials.put credential.accountId credential }
  | putTemplate (template : Template) (holder : store.accounts.contains template.accountId) :
      Write store { store with templates := store.templates.put template.id template }
  | eraseTemplate (id : Uuid) :
      Write store { store with templates := store.templates.erase id }
  | putGroup (group : Group) (holder : store.accounts.contains group.accountId) :
      Write store { store with groups := store.groups.put (group.accountId, group.name) group }
  | eraseGroup (key : AccountId × String) :
      Write store { store with groups := store.groups.erase key }

theorem Step.write {owner : AccountId} (step : store.Step owner next) : store.Write next := by
  cases step with
  | unchanged => exact .unchanged
  | putAccount account => exact .putAccount account
  | putCredential credential own holder => exact .putCredential credential (own ▸ holder)
  | putTemplate template own holder => exact .putTemplate template (own ▸ holder)
  | eraseTemplate id => exact .eraseTemplate id
  | putGroup group own holder => exact .putGroup group (own ▸ holder)
  | eraseGroup name => exact .eraseGroup (owner, name)

theorem commit_write {call : StoreCall} (hosts : store.Hosts call) {reply : call.Reply}
    (committed : store.commit call = (.ok reply, next)) : store.Write next := by
  cases call with
  | upsertAccount account =>
      cases committed
      exact .putAccount account
  | upsertCredential credential =>
      cases committed
      exact .putCredential credential (hosts _ rfl)
  | upsertTemplate template =>
      obtain ⟨rfl, -⟩ := store.putTemplate_eq_ok committed
      exact .putTemplate template (hosts _ rfl)
  | deleteTemplate owner id =>
      obtain ⟨rfl, -⟩ := store.dropTemplate_eq_ok committed
      exact .eraseTemplate id
  | insertGroup group => exact (store.addGroup_step (hosts _ rfl) committed).write
  | upsertGroup group => exact (store.putGroup_step (hosts _ rfl) committed).write
  | deleteGroup owner name => exact (store.dropGroup_step committed).write
  | account | credential | template | templates | group | groups =>
      cases committed
      exact .unchanged

theorem contains_put {accounts : Table AccountId Account} {id : AccountId}
    (present : accounts.contains id) (account : Account) :
    (accounts.put account.id account).contains id := by
  rw [Table.contains, Table.find?_put]
  split
  · rfl
  · exact present

/-- Accounts are never removed. -/
theorem Write.contains (write : store.Write next) {id : AccountId}
    (present : store.accounts.contains id) : next.accounts.contains id := by
  cases write with
  | putAccount account => exact contains_put present account
  | unchanged | putCredential | putTemplate | eraseTemplate | putGroup | eraseGroup =>
      exact present

end Store

end ServiceGroups
