import ServiceGroups.Proofs.Database.Statements
import ServiceGroups.Proofs.Store.Tenant

/-!
# The database as a mirror of the store

The database mirrors a store when its tables hold the rows of the store's values, in
the same order.  Calls that are sent as a statement are then answered alike, and leave
the database a mirror again.
-/

namespace ServiceGroups

/-- The kind of a failure. -/
inductive Failure.Kind where
  | invalidInput
  | notFound
  | conflict
  | unauthorized
  | backend
  | backendMessage
  | template
  | orchestrator
deriving DecidableEq, Repr

def Failure.kind : Failure → Failure.Kind
  | .invalidInput _ => .invalidInput
  | .notFound _ => .notFound
  | .conflict _ => .conflict
  | .unauthorized _ => .unauthorized
  | .backend _ _ => .backend
  | .backendMessage _ => .backendMessage
  | .template _ => .template
  | .orchestrator _ _ => .orchestrator

/-- Two results that are the same value or failures of the same kind. -/
def Alike {α : Type} : Except Failure α → Except Failure α → Prop
  | .ok first, .ok second => first = second
  | .error first, .error second => first.kind = second.kind
  | _, _ => False

namespace Store

/-- Rows belong to accounts that exist, groups have templates of their accounts, and no
two groups share an identity. -/
structure Consistent (store : Store) : Prop where
  keyed : store.Keyed
  supplied : store.Supplied
  credentialOwned : ∀ id credential, store.credentials.find? id = some credential →
    store.accounts.contains credential.accountId
  templateOwned : ∀ id template, store.templates.find? id = some template →
    store.accounts.contains template.accountId
  groupIds : ∀ key other first second, store.groups.find? key = some first →
    store.groups.find? other = some second → first.id = second.id → key = other

end Store

namespace Database

/-- Every table of the database holds the rows of the store's values. -/
structure Mirrors (store : Store) (contents : Contents) : Prop where
  accounts : contents "tsg_accounts" = store.accounts.values.map accountRow
  credentials : contents "tsg_triton_credentials" = store.credentials.values.map credentialRow
  templates : contents "tsg_templates" = store.templates.values.map templateRow
  groups : contents "tsg_groups" = store.groups.values.map groupRow

/-- The call is answered alike, and the database mirrors the store again. -/
structure Follows (store : Store) (contents : Contents) (call : StoreCall) : Prop where
  alike : Alike (store.perform call).1 (serve contents call).1
  mirrors : Mirrors (store.perform call).2 (serve contents call).2

section Sending

variable {contents : Contents} {call : StoreCall} {request : Request}

/-- A call that is sent is answered as its statement is executed. -/
theorem serve_eq (asked : requestFor call = .ok request) :
    serve contents call =
      (replyOf call (execute contents request).1, (execute contents request).2) := by
  simp only [serve, answerTo, perform, asked, Connection.send]

end Sending

namespace Mirrors

variable {store : Store} {contents : Contents}

theorem putAccounts (mirrors : Mirrors store contents) (table : Table AccountId Account) :
    Mirrors { store with accounts := table }
      (contents.set "tsg_accounts" (table.values.map accountRow)) where
  accounts := contents.set_same _ _
  credentials := mirrors.credentials
  templates := mirrors.templates
  groups := mirrors.groups

theorem putCredentials (mirrors : Mirrors store contents) (table : Table AccountId Credential) :
    Mirrors { store with credentials := table }
      (contents.set "tsg_triton_credentials" (table.values.map credentialRow)) where
  accounts := mirrors.accounts
  credentials := contents.set_same _ _
  templates := mirrors.templates
  groups := mirrors.groups

theorem putTemplates (mirrors : Mirrors store contents) (table : Table Uuid Template) :
    Mirrors { store with templates := table }
      (contents.set "tsg_templates" (table.values.map templateRow)) where
  accounts := mirrors.accounts
  credentials := mirrors.credentials
  templates := contents.set_same _ _
  groups := mirrors.groups

theorem putGroups (mirrors : Mirrors store contents)
    (table : Table (AccountId × String) Group) :
    Mirrors { store with groups := table }
      (contents.set "tsg_groups" (table.values.map groupRow)) where
  accounts := mirrors.accounts
  credentials := mirrors.credentials
  templates := mirrors.templates
  groups := contents.set_same _ _

end Mirrors

section Keys

variable {store : Store} (consistent : store.Consistent)

include consistent

theorem spelled_accounts : store.accounts.Spelled Account.id :=
  Table.spelled_of_find? consistent.keyed.accounts

theorem spelled_credentials : store.credentials.Spelled Credential.accountId :=
  Table.spelled_of_find? consistent.keyed.credentials

theorem spelled_templates : store.templates.Spelled Template.id :=
  Table.spelled_of_find? consistent.keyed.templates

theorem spelled_groups :
    store.groups.Spelled fun group => (group.accountId, group.name) :=
  Table.spelled_of_find? consistent.keyed.groups

end Keys

section References

variable {store : Store} {contents : Contents} (consistent : store.Consistent)
  (mirrors : Mirrors store contents)

include consistent mirrors

/-- A reference to an account finds it exactly if the store has it. -/
theorem account_found (owner : AccountId) :
    ((contents "tsg_accounts").any fun other =>
      (other.value "account_id").equals (.uuid owner.uuid)) =
        store.accounts.contains owner := by
  rw [mirrors.accounts]
  refine Table.any_rows (spelled_accounts consistent) fun account => ?_
  rw [← equals_owner, Bool.and_true]
  rfl

theorem template_found (id : Uuid) :
    ((contents "tsg_templates").any fun other =>
      (other.value "template_id").equals (.uuid id)) = store.templates.contains id := by
  rw [mirrors.templates]
  refine Table.any_rows (spelled_templates consistent) fun template => ?_
  rw [← equals_uuid, Bool.and_true]
  rfl

theorem credentialRow_dangles (credential : Credential) :
    credentialsTable.columns.any (Column.dangles contents (credentialRow credential)) =
      !store.accounts.contains credential.accountId := by
  rw [← account_found consistent mirrors]
  simp [credentialsTable, Column.dangles, ownerReference]
  rfl

theorem templateRow_dangles (template : Template) :
    templatesTable.columns.any (Column.dangles contents (templateRow template)) =
      !store.accounts.contains template.accountId := by
  rw [← account_found consistent mirrors]
  simp [templatesTable, Column.dangles, ownerReference]
  rfl

theorem groupRow_dangles (group : Group) :
    groupsTable.columns.any (Column.dangles contents (groupRow group)) =
      (!store.accounts.contains group.accountId ||
        !store.templates.contains group.templateId) := by
  rw [← account_found consistent mirrors, ← template_found consistent mirrors]
  simp [groupsTable, Column.dangles, ownerReference]
  rfl

end References

end Database

end ServiceGroups
