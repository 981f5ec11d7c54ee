import ServiceGroups.Failure
import ServiceGroups.Group
import ServiceGroups.Session
import ServiceGroups.Store.Table
import ServiceGroups.Template

/-!
# The store

The store holds accounts, one credential per account, templates and groups.
Templates are kept under their own identity and belong to one account; a row of
another account reads as missing.  A write first requires the account of its
row to exist, and then changes one table; the two are separate sections, each
of which sees and leaves a consistent store.
-/

namespace ServiceGroups

/-- Accounts, credentials, templates and groups. -/
@[ext]
structure Store where
  accounts : Table AccountId Account
  credentials : Table AccountId Credential
  templates : Table Uuid Template
  groups : Table (AccountId × String) Group

/-- What can be asked of a store. -/
inductive StoreCall where
  | upsertAccount (account : Account)
  | account (id : AccountId)
  | upsertCredential (credential : Credential)
  | credential (id : AccountId)
  | upsertTemplate (template : Template)
  | template (account : AccountId) (id : Uuid)
  | templates (account : AccountId) (page : Page)
  | deleteTemplate (account : AccountId) (id : Uuid)
  | insertGroup (group : Group)
  | upsertGroup (group : Group)
  | group (account : AccountId) (name : String)
  | groups (account : AccountId) (page : Page)
  | deleteGroup (account : AccountId) (name : String)

/-- What a store gives back when a call succeeds. -/
abbrev StoreCall.Reply : StoreCall → Type
  | .account _ => Option Account
  | .credential _ => Option Credential
  | .template _ _ => Option Template
  | .templates _ _ => List Template
  | .group _ _ => Option Group
  | .groups _ _ => List Group
  | _ => Unit

namespace Store

def empty : Store :=
  ⟨.empty, .empty, .empty, .empty⟩

instance : Inhabited Store :=
  ⟨empty⟩

def requireAccount (store : Store) (id : AccountId) : Except Failure Unit :=
  if store.accounts.contains id then .ok ()
  else .error (.conflict ("account " ++ id.text ++ " does not exist"))

def templateInUse (store : Store) (id : Uuid) : Bool :=
  store.groups.values.any (·.templateId == id)

/-- Templates in the order of a listing: oldest first, then by identity. -/
def templateBefore (first second : Template) : Bool :=
  ((compare first.createdAt second.createdAt).then (compare first.id second.id)).isLE

/-- Groups in the order of a listing: by the bytes of their names. -/
def groupBefore (first second : Group) : Bool :=
  first.name ≤ second.name

def templatesOf (store : Store) (account : AccountId) : List Template :=
  (store.templates.values.filter (·.accountId == account)).mergeSort templateBefore

def groupsOf (store : Store) (account : AccountId) : List Group :=
  (store.groups.values.filter (·.accountId == account)).mergeSort groupBefore

/-- The first section of a call: what it checks before it touches the table it
works on. -/
def precheck (store : Store) : StoreCall → Except Failure Unit
  | .upsertCredential credential => store.requireAccount credential.accountId
  | .upsertTemplate template => store.requireAccount template.accountId
  | .insertGroup group => store.requireAccount group.accountId
  | .upsertGroup group => store.requireAccount group.accountId
  | .deleteTemplate _ id =>
    if store.templateInUse id then
      .error (.conflict ("template " ++ id.text ++ " is used by a service group"))
    else .ok ()
  | _ => .ok ()

/-- Put a template in its place, unless another account owns it. -/
def putTemplate (store : Store) (template : Template) : Except Failure Unit × Store :=
  if (store.templates.find? template.id).any (·.accountId ≠ template.accountId) then
    (.error (.conflict ("template " ++ template.id.text ++ " belongs to another account")), store)
  else (.ok (), { store with templates := store.templates.put template.id template })

def dropTemplate (store : Store) (account : AccountId) (id : Uuid) :
    Except Failure Unit × Store :=
  if (store.templates.find? id).any (·.accountId = account) then
    (.ok (), { store with templates := store.templates.erase id })
  else (.error (.notFound ("template " ++ id.text)), store)

/-- Add a group under a name that its account does not use yet. -/
def addGroup (store : Store) (group : Group) : Except Failure Unit × Store :=
  if store.groups.contains (group.accountId, group.name) then
    (.error (.conflict ("service group " ++ group.name ++ " already exists")), store)
  else
    (.ok (), { store with groups := store.groups.put (group.accountId, group.name) group })

/-- A group as it is written over an existing one, which keeps its identity and
its time of creation. -/
def succeeding (existing : Option Group) (group : Group) : Group :=
  match existing with
  | some old => { group with id := old.id, createdAt := old.createdAt }
  | none => group

/-- Write a group, whether or not there is one of its name. -/
def putGroup (store : Store) (group : Group) : Except Failure Unit × Store :=
  let key := (group.accountId, group.name)
  let next := succeeding (store.groups.find? key) group
  (.ok (), { store with groups := store.groups.put key next })

def dropGroup (store : Store) (account : AccountId) (name : String) :
    Except Failure Unit × Store :=
  if store.groups.contains (account, name) then
    (.ok (), { store with groups := store.groups.erase (account, name) })
  else (.error (.notFound ("service group " ++ name)), store)

/-- The second section of a call: its work on one table. -/
def commit (store : Store) : (call : StoreCall) → Except Failure call.Reply × Store
  | .upsertAccount account =>
    (.ok (), { store with accounts := store.accounts.put account.id account })
  | .account id => (.ok (store.accounts.find? id), store)
  | .upsertCredential credential =>
    (.ok (), { store with
      credentials := store.credentials.put credential.accountId credential })
  | .credential id => (.ok (store.credentials.find? id), store)
  | .upsertTemplate template => store.putTemplate template
  | .template account id =>
    (.ok ((store.templates.find? id).filter (·.accountId = account)), store)
  | .templates account page => (.ok (page.slice (store.templatesOf account)), store)
  | .deleteTemplate account id => store.dropTemplate account id
  | .insertGroup group => store.addGroup group
  | .upsertGroup group => store.putGroup group
  | .group account name => (.ok (store.groups.find? (account, name)), store)
  | .groups account page => (.ok (page.slice (store.groupsOf account)), store)
  | .deleteGroup account name => store.dropGroup account name

/-- Both sections of a call, with no other call between them. -/
def perform (store : Store) (call : StoreCall) : Except Failure call.Reply × Store :=
  match store.precheck call with
  | .ok () => store.commit call
  | .error failure => (.error failure, store)

end Store

end ServiceGroups
