import ServiceGroups.Proofs.Store.Write

/-!
# Rows under their own keys

Every row of a store lies under the key that its own fields spell, whatever has
been asked of the store before.
-/

namespace ServiceGroups

namespace Table

variable {κ ν : Type} [DecidableEq κ]

/-- If the rows of a table have a property that depends on their keys, so they
have after a row with the property is put into it. -/
theorem forall_find?_put {holds : κ → ν → Prop} {table : Table κ ν} {key : κ} {value : ν}
    (held : ∀ other row, table.find? other = some row → holds other row)
    (new : holds key value) (other : κ) (row : ν)
    (found : (table.put key value).find? other = some row) : holds other row := by
  rw [find?_put] at found
  split at found
  · next same =>
      cases found
      exact same ▸ new
  · exact held other row found

theorem find?_of_find?_erase {table : Table κ ν} {key other : κ} {row : ν}
    (found : (table.erase key).find? other = some row) : table.find? other = some row := by
  rw [find?_erase] at found
  split at found
  · cases found
  · exact found

end Table

namespace Store

/-- Every row lies under the key that its fields spell. -/
structure Keyed (store : Store) : Prop where
  accounts : ∀ id account, store.accounts.find? id = some account → account.id = id
  credentials : ∀ id credential,
    store.credentials.find? id = some credential → credential.accountId = id
  templates : ∀ id template, store.templates.find? id = some template → template.id = id
  groups : ∀ key group,
    store.groups.find? key = some group → (group.accountId, group.name) = key

theorem keyed_empty : Store.empty.Keyed := by
  constructor <;> intro _ _ found <;> cases found

variable {store next : Store}

theorem Keyed.write (keyed : store.Keyed) (write : store.Write next) : next.Keyed := by
  cases write with
  | unchanged => exact keyed
  | putAccount account =>
      exact { keyed with accounts := Table.forall_find?_put keyed.accounts rfl }
  | putCredential credential =>
      exact { keyed with credentials := Table.forall_find?_put keyed.credentials rfl }
  | putTemplate template =>
      exact { keyed with templates := Table.forall_find?_put keyed.templates rfl }
  | eraseTemplate id =>
      exact { keyed with
        templates := fun _ _ found => keyed.templates _ _ (Table.find?_of_find?_erase found) }
  | putGroup group =>
      exact { keyed with groups := Table.forall_find?_put keyed.groups rfl }
  | eraseGroup key =>
      exact { keyed with
        groups := fun _ _ found => keyed.groups _ _ (Table.find?_of_find?_erase found) }

theorem Keyed.step {owner : AccountId} (keyed : store.Keyed) (step : store.Step owner next) :
    next.Keyed :=
  keyed.write step.write

theorem Keyed.perform (keyed : store.Keyed) (call : StoreCall) :
    (store.perform call).2.Keyed :=
  keyed.step (store.perform_step call)

end Store

end ServiceGroups
