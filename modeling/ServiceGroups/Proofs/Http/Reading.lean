import ServiceGroups.Proofs.Http.Guard
import ServiceGroups.Proofs.Http.WellFormed
import ServiceGroups.Proofs.Uuid

/-!
# What an account reads

A group is read under its name and a template under its identity; both stand in the listing
of their kind.  What an account reads depends on its own rows alone, and of a row that can
be read the listing holds exactly one copy.
-/

namespace ServiceGroups

/-- The value stands in the list, and only once. -/
def OccursOnce {α : Type} (value : α) (values : List α) : Prop :=
  ∃ front back, values = front ++ value :: back ∧ value ∉ front ∧ value ∉ back

theorem occursOnce_of_nodup {α : Type} {value : α} {values : List α} (distinct : values.Nodup)
    (member : value ∈ values) : OccursOnce value values := by
  obtain ⟨front, back, rfl⟩ := List.append_of_mem member
  obtain ⟨-, others, apart⟩ := List.nodup_append.mp distinct
  refine ⟨front, back, rfl, fun before => ?_, (List.nodup_cons.mp others).1⟩
  exact apart value before value List.mem_cons_self rfl

theorem Page.map_slice {α β : Type} (page : Page) (change : α → β) (rows : List α) :
    (page.slice rows).map change = page.slice (rows.map change) := by
  rw [slice, slice, List.map_take, List.map_drop]

/-- A page reaches the place with the number if it does not begin behind it or end before
it. -/
def Page.Reaches (page : Page) (place : Nat) : Prop :=
  page.offset.toNat ≤ place ∧ place < page.offset.toNat + page.limit.toNat

/-- What occurs once is on exactly the pages that reach it, and there it occurs once. -/
theorem Page.slice_of_occursOnce {α : Type} {front back : List α} {value : α}
    (before : value ∉ front) (behind : value ∉ back) (page : Page) :
    (page.Reaches front.length → OccursOnce value (page.slice (front ++ value :: back))) ∧
      (¬ page.Reaches front.length → value ∉ page.slice (front ++ value :: back)) := by
  unfold Page.Reaches Page.slice
  constructor
  · rintro ⟨low, high⟩
    rw [List.drop_append_of_le_length low, List.take_append]
    have some : page.limit.toNat - (front.drop page.offset.toNat).length ≠ 0 := by
      rw [List.length_drop]
      omega
    obtain ⟨left, same⟩ := Nat.exists_eq_succ_of_ne_zero some
    rw [same, List.take_succ_cons]
    refine ⟨_, _, rfl, fun member => before ?_, fun member => behind (List.mem_of_mem_take member)⟩
    exact List.mem_of_mem_drop (List.mem_of_mem_take member)
  · intro misses member
    by_cases low : page.offset.toNat ≤ front.length
    · rw [List.drop_append_of_le_length low] at member
      have short : page.limit.toNat ≤ (front.drop page.offset.toNat).length := by
        rw [List.length_drop]
        omega
      rw [List.take_append_of_le_length short] at member
      exact before (List.mem_of_mem_drop (List.mem_of_mem_take member))
    · have kept := List.mem_of_mem_take member
      obtain ⟨more, same⟩ := Nat.exists_eq_add_of_lt (Nat.lt_of_not_le low)
      rw [same, Nat.add_assoc, ← List.drop_drop, List.drop_left, List.drop_succ_cons] at kept
      exact behind (List.mem_of_mem_drop kept)

namespace Http

/-- What can be read under an address of its own. -/
inductive Resource where
  | group (name : String)
  | template (id : Uuid)
deriving DecidableEq

namespace Resource

/-- The route whose listing holds the resource. -/
def collection : Resource → Route
  | group _ => .groups
  | template _ => .templates

/-- The last segment of the route spells the resource. -/
inductive At : Route → Resource → Prop where
  | group {segment name : String} (read : readSegment segment = .ok name) :
      At (.group segment) (group name)
  | template {segment : String} {id : Uuid} (read : readIdentity segment = .ok id) :
      At (.template segment) (template id)

/-- The row of the account, in its written form. -/
def value? (store : Store) (owner : AccountId) : Resource → Option Json.Value
  | group name => (store.groups.find? (owner, name)).map Json.encode
  | template id =>
    ((store.templates.find? id).filter (·.accountId = owner)).map Json.encode

/-- The rows of the account that are listed with the resource, in their written form. -/
def values (store : Store) (owner : AccountId) : Resource → List Json.Value
  | group _ => (store.groupsOf owner).map Json.encode
  | template _ => (store.templatesOf owner).map Json.encode

def missing : Resource → Failure
  | group name => .notFound ("service group " ++ name)
  | template id => .notFound ("template " ++ id.text)

/-- How a request to read the resource is answered. -/
def answer (resource : Resource) (found : Option Json.Value) : Except Denial Response :=
  match found with
  | some value => .ok (.json 200 value)
  | none => .error (.failed resource.missing)

end Resource

section Distinct

variable {store : Store}

theorem name_eq_of_encode_eq {first second : Group}
    (same : Json.encode first = Json.encode second) : first.name = second.name := by
  have rows := congrArg (Json.Value.member? "group_name") same
  simpa [Json.encode, Json.Form.encode, Json.Value.member?, Json.Row.members, Json.Record.toRow,
    Json.Record.fields, List.lookup_cons, Json.Field.required, Json.Shape.encode] using rows

theorem id_eq_of_encode_eq {first second : Template}
    (same : Json.encode first = Json.encode second) : first.id = second.id := by
  have rows := congrArg (Json.Value.member? "template_id") same
  have texts : first.id.text = second.id.text := by
    simpa [Json.encode, Json.Form.encode, Json.Value.member?, Json.Row.members,
      Json.Record.toRow, Json.Record.fields, List.lookup_cons, Json.Field.required,
      Json.Shape.encode] using rows
  exact Uuid.text_injective texts

theorem nodup_encoded_groups (keyed : store.Keyed) (owner : AccountId) :
    ((store.groupsOf owner).map Json.encode).Nodup := by
  have distinct : (store.groupsOf owner).Nodup :=
    (List.mergeSort_perm _ _).nodup_iff.mpr (.filter _ (Table.nodup_values keyed.groups))
  refine distinct.map_on fun first firstIn second secondIn same => ?_
  obtain ⟨⟨key, found⟩, own⟩ := Store.mem_groupsOf.mp firstIn
  obtain ⟨⟨key', found'⟩, own'⟩ := Store.mem_groupsOf.mp secondIn
  have sameKey : key = key' := by
    rw [← keyed.groups key first found, ← keyed.groups key' second found',
      name_eq_of_encode_eq same, own, own']
  rw [sameKey, found'] at found
  exact (Option.some.inj found).symm

theorem nodup_encoded_templates (keyed : store.Keyed) (owner : AccountId) :
    ((store.templatesOf owner).map Json.encode).Nodup := by
  have distinct : (store.templatesOf owner).Nodup :=
    (List.mergeSort_perm _ _).nodup_iff.mpr (.filter _ (Table.nodup_values keyed.templates))
  refine distinct.map_on fun first firstIn second secondIn same => ?_
  obtain ⟨⟨id, found⟩, -⟩ := Store.mem_templatesOf.mp firstIn
  obtain ⟨⟨id', found'⟩, -⟩ := Store.mem_templatesOf.mp secondIn
  have sameId : id = id' := by
    rw [← keyed.templates id first found, ← keyed.templates id' second found',
      id_eq_of_encode_eq same]
  rw [sameId, found'] at found
  exact (Option.some.inj found).symm

/-- What can be read is listed once. -/
theorem Resource.occursOnce_values (keyed : store.Keyed) {owner : AccountId}
    {resource : Resource} {value : Json.Value} (found : resource.value? store owner = some value) :
    OccursOnce value (resource.values store owner) := by
  cases resource with
  | group name =>
      obtain ⟨group, held, rfl⟩ := Option.map_eq_some_iff.mp found
      have own : group.accountId = owner := congrArg Prod.fst (keyed.groups _ group held)
      exact occursOnce_of_nodup (nodup_encoded_groups keyed owner)
        (List.mem_map_of_mem (Store.mem_groupsOf.mpr ⟨⟨_, held⟩, own⟩))
  | template id =>
      obtain ⟨template, kept, rfl⟩ := Option.map_eq_some_iff.mp found
      obtain ⟨held, own⟩ := Option.filter_eq_some_iff.mp kept
      exact occursOnce_of_nodup (nodup_encoded_templates keyed owner)
        (List.mem_map_of_mem (Store.mem_templatesOf.mpr ⟨⟨_, held⟩, of_decide_eq_true own⟩))

end Distinct

/-- The request is an accepted one of the account to get what the route leads to. -/
structure Service.Gets (service : Service) (request : Request) (owner : AccountId)
    (route : Route) : Prop where
  accepted : service.accepts request = true
  configured : service.defaults.isSome = true
  method : request.method = "GET"
  account : requestAccount request.headers = .ok owner
  address : Route.ofTarget? request.target = some route

namespace Service.Gets

variable {service : Service} {request : Request} {owner : AccountId} {route : Route}
variable {σ : Type} {scheduler : Scheduler σ} {store : Store} {state : σ}

theorem route? (gets : service.Gets request owner route) (guarded : route.isGuarded = true) :
    service.route? request = some route :=
  service.route?_of_guarded request gets.address guarded

theorem session (gets : service.Gets request owner route) :
    ∃ session, session.accountId = owner ∧
      requestSession service.defaults request.headers = .ok session := by
  obtain ⟨cloud, configured⟩ := Option.isSome_iff_exists.mp gets.configured
  rw [requestSession, gets.account, configured]
  exact ⟨_, rfl, rfl⟩

theorem task (gets : service.Gets request owner route) (guarded : route.isGuarded = true)
    {moment : Moment} {task : Task} (read : service.readTask moment request route = .ok task) :
    service.task moment request = task := by
  have served : serves route request = true := by
    rw [serves, gets.method]
    rfl
  rw [Service.task, gets.route? guarded]
  simp only [gets.accepted, Bool.not_true, Bool.and_false, Bool.false_eq_true, if_false]
  rw [Service.innerTask, if_pos served, read]

/-- The answer to a request whose plan is an answer. -/
theorem answered (gets : service.Gets request owner route) (guarded : route.isGuarded = true)
    {moment : Moment} {task : Task} (read : service.readTask moment request route = .ok task)
    {result : Except Denial Response} (settled : task.plan moment store = .settle result) :
    ((service.handle moment request).run scheduler store state).result =
      service.finish moment request (responseOf result) := by
  rw [service.run_handle, outcome_task, gets.task guarded read, settled]
  rfl

theorem isGuarded_of_at {resource : Resource} (spelled : resource.At route) :
    route.isGuarded = true := by
  cases spelled <;> rfl

/-- A request for a resource is answered by the account's row. -/
theorem answer (gets : service.Gets request owner route) (moment : Moment) {resource : Resource}
    (spelled : resource.At route) :
    ((service.handle moment request).run scheduler store state).result =
      service.finish moment request
        (responseOf (resource.answer (resource.value? store owner))) := by
  obtain ⟨session, rfl, carries⟩ := gets.session
  cases spelled with
  | @group segment name read =>
      have reads : service.readTask moment request (.group segment) =
          .ok (.showGroup session name) := by
        rw [readTask, carries, read, gets.method]
        rfl
      refine gets.answered rfl reads ?_
      rw [Task.plan, Task.withGroup, Resource.value?]
      cases store.groups.find? (session.accountId, name) <;> rfl
  | @template segment id read =>
      have reads : service.readTask moment request (.template segment) =
          .ok (.showTemplate session id) := by
        rw [readTask, carries, read, gets.method]
        rfl
      refine gets.answered rfl reads ?_
      rw [Task.plan, Resource.value?]
      cases (store.templates.find? id).filter (·.accountId = session.accountId) <;> rfl

theorem listing (gets : service.Gets request owner route) (moment : Moment) {resource : Resource}
    (collected : route = resource.collection) {page : Page}
    (paged : readPage request.target = .ok page) :
    ((service.handle moment request).run scheduler store state).result =
      service.finish moment request
        (.json 200 (.array (page.slice (resource.values store owner)))) := by
  obtain ⟨session, rfl, carries⟩ := gets.session
  cases resource with
  | group name =>
      subst collected
      have reads : service.readTask moment request .groups =
          .ok (.listGroups session page) := by
        rw [readTask, carries, paged, gets.method]
        rfl
      have settled : (Task.listGroups session page).plan moment store = .settle (.ok (.json 200
          (.array (page.slice ((store.groupsOf session.accountId).map Json.encode))))) := by
        rw [Task.plan, Page.map_slice]
      exact gets.answered rfl reads settled
  | template id =>
      subst collected
      have reads : service.readTask moment request .templates =
          .ok (.listTemplates session page) := by
        rw [readTask, carries, paged, gets.method]
        rfl
      have settled : (Task.listTemplates session page).plan moment store = .settle (.ok (.json 200
          (.array (page.slice ((store.templatesOf session.accountId).map Json.encode))))) := by
        rw [Task.plan, Page.map_slice]
      exact gets.answered rfl reads settled

theorem finish_body (gets : service.Gets request owner route)
    (guarded : route.isGuarded = true) (moment : Moment) (response : Response) :
    (service.finish moment request response).body = response.body := by
  rw [service.finish_body moment request (gets.route? guarded), gets.method]
  exact if_neg (by decide)

end Service.Gets

end Http

end ServiceGroups
