import ServiceGroups.Proofs.Http.Task
import ServiceGroups.Proofs.Store.Keyed

/-!
# Stores that can arise

A store arises from the empty one by calls and by requests, in any order, with any
behaviour of the scheduler.  A served store arises by requests alone from one that
holds nothing but accounts and their credentials.
-/

namespace ServiceGroups

/-- The store holds accounts and credentials, each under its own key, and nothing
else. -/
structure Store.OnlyAccounts (store : Store) : Prop extends store.Keyed where
  noTemplates : store.templates = .empty
  noGroups : store.groups = .empty

namespace Store

/-- The store that holds accounts, each with its credential. -/
def holding : List (Account × Credential) → Store
  | [] => empty
  | (account, credential) :: rest =>
    (((holding rest).perform (.upsertAccount account)).2.perform
      (.upsertCredential credential)).2

theorem perform_upsertCredential_templates (store : Store) (credential : Credential) :
    (store.perform (.upsertCredential credential)).2.templates = store.templates := by
  cases checked : store.requireAccount credential.accountId <;>
    simp [perform, precheck, commit, checked]

theorem perform_upsertCredential_groups (store : Store) (credential : Credential) :
    (store.perform (.upsertCredential credential)).2.groups = store.groups := by
  cases checked : store.requireAccount credential.accountId <;>
    simp [perform, precheck, commit, checked]

theorem onlyAccounts_holding (rows : List (Account × Credential)) :
    (holding rows).OnlyAccounts := by
  induction rows with
  | nil => exact ⟨keyed_empty, rfl, rfl⟩
  | cons row rest ih =>
      refine ⟨(ih.toKeyed.perform _).perform _, ?_, ?_⟩
      · exact (perform_upsertCredential_templates _ _).trans ih.noTemplates
      · exact (perform_upsertCredential_groups _ _).trans ih.noGroups

end Store

namespace Http

/-- The stores that calls and requests can lead to. -/
inductive Reachable : Store → Prop where
  | empty : Reachable .empty
  | call {store : Store} (before : Reachable store) (call : StoreCall) :
      Reachable (store.perform call).2
  | request {store : Store} (before : Reachable store) (service : Service) (moment : Moment)
      (request : Request) {σ : Type} (scheduler : Scheduler σ) (state : σ) :
      Reachable ((service.handle moment request).run scheduler store state).store

theorem Reachable.holding (rows : List (Account × Credential)) :
    Reachable (Store.holding rows) := by
  induction rows with
  | nil => exact .empty
  | cons row rest ih => exact (ih.call _).call _

/-- The stores that requests can lead to, from accounts and their credentials. -/
inductive Served : Store → Prop where
  | start {store : Store} (only : store.OnlyAccounts) : Served store
  | request {store : Store} (before : Served store) (service : Service) (moment : Moment)
      (request : Request) {σ : Type} (scheduler : Scheduler σ) (state : σ) :
      Served ((service.handle moment request).run scheduler store state).store

theorem Reachable.keyed {store : Store} (reachable : Reachable store) : store.Keyed := by
  induction reachable with
  | empty => exact Store.keyed_empty
  | call before call ih => exact ih.perform call
  | request before service moment request scheduler state ih =>
      exact Program.run_preserves (fun _ call keyed => keyed.perform call) _ _ _ _ ih

theorem Served.keyed {store : Store} (served : Served store) : store.Keyed := by
  induction served with
  | start only => exact only.toKeyed
  | request before service moment request scheduler state ih =>
      exact Program.run_preserves (fun _ call keyed => keyed.perform call) _ _ _ _ ih

namespace Sample

/-- A tenant all of whose identities are one number. -/
def tenant (number : BitVec 128) : Account × Credential :=
  (⟨⟨⟨number⟩⟩, "tenant", ⟨number⟩, .epoch, .epoch⟩,
    ⟨⟨⟨number⟩⟩, "tenant", "key", "material"⟩)

/-- Two tenants and nothing else. -/
def twoTenants : Store :=
  Store.holding [tenant 1, tenant 2]

def settings : Settings where
  listener := ⟨.v4 ⟨127, 0, 0, 1⟩ 3000, .ofMillis 10000⟩
  database := ⟨"postgres://localhost/tsg", 10, .ofMillis 5000⟩
  scheduler := ⟨"http://nomad.example:4646", none, none, none, .ofMillis 10000⟩
  cloud := ⟨"central", "https://cloud.example"⟩
  release := "0.2.1"

/-- A service that lets every request through. -/
def service : Service :=
  .ofSettings settings permitAll

/-- A moment with a fresh identity. -/
def moment (freshId : BitVec 128) : Moment :=
  ⟨.epoch, ⟨freshId⟩, "request", 0⟩

/-- A request of a tenant. -/
def request (number : BitVec 128) (method target body : String) : Request :=
  ⟨method, target,
    [("x-account-id", (Uuid.mk number).text), ("content-type", "application/json")], body⟩

/-- The first tenant makes a template. -/
def templateRequest : Request :=
  request 1 "POST" "/v1/templates"
    "\x7b\"name\":\"web\",\"package\":\"small\",\"image_id\":\"image\"\x7d"

/-- The first tenant makes a group of the template 7. -/
def groupRequest : Request :=
  request 1 "POST" "/v1/tsg"
    ("\x7b\"group_name\":\"web\",\"capacity\":1,\"template_id\":\"" ++
      (Uuid.mk 7).text ++ "\"\x7d")

/-- A scheduler that refuses every call. -/
def refusing : Scheduler Unit :=
  ⟨fun _ _ => (.error (.backendMessage "unavailable"), ())⟩

/-- A scheduler that grants every call and keeps nothing. -/
def granting : Scheduler Unit where
  answer
    | .parse text, state => (.ok ⟨"job", .string text⟩, state)
    | .validate _, state => (.ok (), state)
    | .register _, state => (.ok ⟨""⟩, state)
    | .deregister _ _, state => (.ok ⟨""⟩, state)
    | .force _, state => (.ok ⟨""⟩, state)

/-- The first tenant has made the template 7. -/
def withTemplate : Store :=
  ((service.handle (moment 7) templateRequest).run granting twoTenants ()).store

/-- The first tenant has made a group that uses the template. -/
def withGroup : Store :=
  ((service.handle (moment 8) groupRequest).run granting withTemplate ()).store

theorem reachable_withTemplate : Reachable withTemplate :=
  (Reachable.holding _).request _ _ _ _ _

theorem reachable_withGroup : Reachable withGroup :=
  reachable_withTemplate.request _ _ _ _ _

/-- The first tenant deletes its group. -/
def groupDeletion : Request :=
  request 1 "DELETE" "/v1/tsg/web" ""

/-- What the deletion leaves of the store with the group. -/
def afterGroupDeletion : Outcome Response Unit :=
  (service.handle (moment 9) groupDeletion).run granting withGroup ()

end Sample

end Http

end ServiceGroups
