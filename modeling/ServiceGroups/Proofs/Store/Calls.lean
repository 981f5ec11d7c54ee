import ServiceGroups.Store.Basic

/-!
# What the calls of a store do

A read gives back what it finds and leaves the store alone.  A write that fails
leaves the store alone too, and a write that succeeds changes one table.
-/

namespace ServiceGroups

namespace Store

variable (store : Store)

@[simp]
theorem perform_account (id : AccountId) :
    store.perform (.account id) = (.ok (store.accounts.find? id), store) :=
  rfl

@[simp]
theorem perform_credential (id : AccountId) :
    store.perform (.credential id) = (.ok (store.credentials.find? id), store) :=
  rfl

@[simp]
theorem perform_template (account : AccountId) (id : Uuid) :
    store.perform (.template account id) =
      (.ok ((store.templates.find? id).filter (·.accountId = account)), store) :=
  rfl

@[simp]
theorem perform_templates (account : AccountId) (page : Page) :
    store.perform (.templates account page) =
      (.ok (page.slice (store.templatesOf account)), store) :=
  rfl

@[simp]
theorem perform_group (account : AccountId) (name : String) :
    store.perform (.group account name) = (.ok (store.groups.find? (account, name)), store) :=
  rfl

@[simp]
theorem perform_groups (account : AccountId) (page : Page) :
    store.perform (.groups account page) = (.ok (page.slice (store.groupsOf account)), store) :=
  rfl

end Store

end ServiceGroups
