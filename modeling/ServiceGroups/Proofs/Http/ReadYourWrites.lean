import ServiceGroups.Proofs.Http.CleanErrors
import ServiceGroups.Proofs.Http.Reading

/-!
# Reading what was written

A write that succeeds has put its row in place or removed it, and it has changed nothing
else that the account can read.  The row that the response carries is therefore the one
that is read afterwards, although the handler answers with a copy of its own.
-/

namespace ServiceGroups

namespace Http

/-- The account reads the value under the addresses of the resource, and the listing holds it
once, in one place, on the pages that reach this place. -/
structure Shows (store : Store) (owner : AccountId) (resource : Resource) (value : Json.Value) :
    Prop where
  addressed : ∃ target route, Route.ofTarget? target = some route ∧ resource.At route
  shown : ∀ (service : Service) (moment : Moment) (request : Request) {route : Route} {σ : Type}
    (scheduler : Scheduler σ) (state : σ), service.Gets request owner route →
    resource.At route →
    let answer := ((service.handle moment request).run scheduler store state).result
    answer.status = 200 ∧ answer.body = .json value
  listed : ∃ place, ∀ (service : Service) (moment : Moment) (request : Request) {page : Page}
    {σ : Type} (scheduler : Scheduler σ) (state : σ),
    service.Gets request owner resource.collection → readPage request.target = .ok page →
    let answer := ((service.handle moment request).run scheduler store state).result
    answer.status = 200 ∧
      ∃ values, answer.body = .json (.array values) ∧
        (page.Reaches place → OccursOnce value values) ∧ (¬ page.Reaches place → value ∉ values)

/-- The account is told that the resource is not found. -/
def Hides (store : Store) (owner : AccountId) (resource : Resource) : Prop :=
  ∀ (service : Service) (moment : Moment) (request : Request) {route : Route} {σ : Type}
    (scheduler : Scheduler σ) (state : σ), service.Gets request owner route →
    resource.At route →
    ((service.handle moment request).run scheduler store state).result.status = 404

/-- Every other resource of the account is read as before. -/
def KeepsOthers (store next : Store) (owner : AccountId) (resource : Resource) : Prop :=
  ∀ other ≠ resource, ∀ (service : Service) (moment : Moment) (request : Request)
    {route : Route} {σ : Type} (scheduler : Scheduler σ) (state : σ),
    service.Gets request owner route → other.At route →
    ((service.handle moment request).run scheduler next state).result =
      ((service.handle moment request).run scheduler store state).result

/-- What the account reads of the resource is replaced, and nothing else. -/
def Replaces (store next : Store) (owner : AccountId) (resource : Resource)
    (found : Option Json.Value) : Prop :=
  ∀ other : Resource,
    other.value? next owner = if other = resource then found else other.value? store owner

section Consequences

variable {store next : Store} {owner : AccountId} {resource : Resource}

theorem shows_of_value? {value : Json.Value} (keyed : store.Keyed)
    (addressed : ∃ target route, Route.ofTarget? target = some route ∧ resource.At route)
    (found : resource.value? store owner = some value) : Shows store owner resource value := by
  refine ⟨addressed, ?_, ?_⟩
  · intro service moment request route σ scheduler state gets spelled answer
    have answered : answer = _ := gets.answer moment spelled
    rw [found] at answered
    rw [answered]
    exact ⟨service.finish_status moment request _,
      gets.finish_body (Service.Gets.isGuarded_of_at spelled) moment _⟩
  · obtain ⟨front, back, same, before, behind⟩ := resource.occursOnce_values keyed found
    refine ⟨front.length, ?_⟩
    intro service moment request page σ scheduler state gets paged answer
    have answered : answer = _ := gets.listing moment rfl paged
    have guarded : resource.collection.isGuarded = true := by cases resource <;> rfl
    rw [answered]
    refine ⟨service.finish_status moment request _, _, gets.finish_body guarded moment _, ?_⟩
    rw [same]
    exact page.slice_of_occursOnce before behind

theorem Replaces.hides (replaces : Replaces store next owner resource none) :
    Hides next owner resource := by
  intro service moment request route σ scheduler state gets spelled
  have gone : resource.value? next owner = none := (replaces resource).trans (if_pos rfl)
  rw [gets.answer moment spelled, gone, service.finish_status]
  cases resource <;> rfl

theorem Replaces.keepsOthers {found : Option Json.Value}
    (replaces : Replaces store next owner resource found) :
    KeepsOthers store next owner resource := by
  intro other different service moment request route σ scheduler state gets spelled
  have same : other.value? next owner = other.value? store owner :=
    (replaces other).trans (if_neg different)
  rw [gets.answer moment spelled, gets.answer moment spelled, same]

theorem replaces_putGroup (group : Group) (name : String) :
    Replaces store { store with groups := store.groups.put (owner, name) group } owner
      (.group name) (some (Json.encode group)) := by
  intro other
  cases other with
  | group otherName =>
      simp only [Resource.value?, Table.find?_put, Prod.mk.injEq, true_and, Resource.group.injEq]
      split <;> rfl
  | template id => exact (if_neg (by simp)).symm

theorem replaces_eraseGroup (name : String) :
    Replaces store { store with groups := store.groups.erase (owner, name) } owner
      (.group name) none := by
  intro other
  cases other with
  | group otherName =>
      simp only [Resource.value?, Table.find?_erase, Prod.mk.injEq, true_and,
        Resource.group.injEq]
      split <;> rfl
  | template id => exact (if_neg (by simp)).symm

theorem replaces_leaves {session : Session} {group : Group} (operation : Operation) :
    Replaces store (operation.leaves store session group) session.accountId (.group group.name)
      (if operation = .delete then none else some (Json.encode group)) := by
  cases operation with
  | submit | update => exact replaces_putGroup group group.name
  | delete => exact replaces_eraseGroup group.name

theorem replaces_putTemplate {template : Template} (own : template.accountId = owner) :
    Replaces store { store with templates := store.templates.put template.id template } owner
      (.template template.id) (some (Json.encode template)) := by
  intro other
  cases other with
  | group name => exact (if_neg (by simp)).symm
  | template id =>
      simp only [Resource.value?, Table.find?_put, Resource.template.injEq]
      split
      · rw [Option.filter_some, decide_eq_true own]
        rfl
      · rfl

theorem replaces_eraseTemplate (id : Uuid) :
    Replaces store { store with templates := store.templates.erase id } owner (.template id)
      none := by
  intro other
  cases other with
  | group name => exact (if_neg (by simp)).symm
  | template otherId =>
      simp only [Resource.value?, Table.find?_erase, Resource.template.injEq]
      split <;> rfl

end Consequences

section Templates

variable {σ : Type} {scheduler : Scheduler σ} {store : Store} {state : σ} {release : String}
variable {moment : Moment} {session : Session}

theorem Task.createTemplate_plan (draft : TemplateDraft) :
    (∃ denial, (createTemplate session draft).plan moment store = .deny denial) ∨
      (draft.check = .ok () ∧
        (createTemplate session draft).plan moment store =
          .write (.upsertTemplate (draft.template moment session))
            (.json 201 (Json.encode (draft.template moment session)))) := by
  rw [plan, createTemplatePlan]
  cases checked : draft.check with
  | error refusal => exact .inl ⟨_, rfl⟩
  | ok _ => exact .inr ⟨rfl, rfl⟩

theorem Task.Succeeds.createTemplate {draft : TemplateDraft} (keyed : store.Keyed)
    (succeeds : (createTemplate session draft).Succeeds release moment scheduler store state) :
    let outcome :=
      (Task.createTemplate session draft).outcome release moment scheduler store state
    let template := draft.template moment session
    outcome.result = .ok (.json 201 (Json.encode template)) ∧
      Replaces store outcome.store session.accountId (.template template.id)
        (some (Json.encode template)) := by
  obtain ⟨denial, denied⟩ | ⟨checked, planned⟩ := createTemplate_plan draft
  · exact (not_succeeds denied succeeds).elim
  · rw [Succeeds, outcome, outcome_task, planned] at succeeds
    have arises : Plan.Arises moment store _ := .createTemplate session draft checked
    obtain ⟨reply, next, run, performed⟩ := arises.performed_of_write keyed succeeds
    obtain ⟨-, committed⟩ := store.perform_eq_ok.mp performed
    obtain ⟨rfl, -⟩ := store.putTemplate_eq_ok committed
    simp only [outcome, outcome_task, planned, run]
    exact ⟨trivial, replaces_putTemplate rfl⟩

theorem Task.Succeeds.deleteTemplate {id : Uuid} (keyed : store.Keyed)
    (succeeds : (deleteTemplate session id).Succeeds release moment scheduler store state) :
    let outcome := (Task.deleteTemplate session id).outcome release moment scheduler store state
    outcome.result = .ok (.empty 204) ∧
      Replaces store outcome.store session.accountId (.template id) none := by
  have planned : (Task.deleteTemplate session id).plan moment store =
    .write (.deleteTemplate session.accountId id) (.empty 204) := rfl
  rw [Succeeds, outcome, outcome_task, planned] at succeeds
  have arises : Plan.Arises moment store _ := .deleteTemplate session id
  obtain ⟨reply, next, run, performed⟩ := arises.performed_of_write keyed succeeds
  obtain ⟨-, committed⟩ := store.perform_eq_ok.mp performed
  obtain ⟨rfl, -⟩ := store.dropTemplate_eq_ok committed
  simp only [outcome, outcome_task, planned, run]
  exact ⟨trivial, replaces_eraseTemplate _⟩

end Templates

section Addresses

theorem standsPlain_text (id : Uuid) : StandsPlain id.text :=
  fun _ special => Uuid.not_mem_text special

/-- The address of a template is its written identity behind that of all templates. -/
theorem ofTarget?_template (id : Uuid) :
    Route.ofTarget? ("/v1/templates/" ++ id.text) = some (.template id.text) := by
  have base : "/v1/templates/".toList =
      '/' :: ("v1".toList ++ '/' :: ("templates".toList ++ ['/'])) := by decide
  have written : id.text ≠ "" := by
    intro empty
    have length := id.length_text
    simp [empty] at length
  rw [Route.ofTarget?, segments_of_plain (standsPlain_text id) base (by decide) (by decide)]
  simp [Route.ofSegments?, written]

theorem readIdentity_text (id : Uuid) : readIdentity id.text = .ok id := by
  rw [readIdentity, Text.percentDecode?_of_no_sign (Uuid.not_mem_text (by decide)),
    Option.bind_some, Uuid.read?_text]

end Addresses

namespace Service

variable {σ : Type} {scheduler : Scheduler σ} {store : Store} {state : σ}
variable {service : Service} {moment : Moment} {request : Request} {route : Route}

variable {owner : AccountId}

theorem readTask_templates_eq_ok {task : Task} (post : request.method = "POST")
    (carries : requestAccount request.headers = .ok owner)
    (read : service.readTask moment request .templates = .ok task) :
    ∃ session draft, session.accountId = owner ∧ readBody TemplateDraft request = .ok draft ∧
      task = .createTemplate session draft := by
  obtain ⟨session, found, rest⟩ := bind_mapError_eq_ok read
  rw [if_pos post] at rest
  obtain ⟨draft, body, rest⟩ := bind_mapError_eq_ok rest
  cases rest
  exact ⟨session, draft, accountId_of_requestSession service.defaults carries found, body, rfl⟩

theorem readTask_template_eq_ok {segment : String} {id : Uuid} {task : Task}
    (identified : readIdentity segment = .ok id) (delete : request.method = "DELETE")
    (carries : requestAccount request.headers = .ok owner)
    (read : service.readTask moment request (.template segment) = .ok task) :
    ∃ session, session.accountId = owner ∧ task = .deleteTemplate session id := by
  obtain ⟨session, found, rest⟩ := bind_mapError_eq_ok read
  obtain ⟨other, identified', rest⟩ := bind_mapError_eq_ok rest
  cases identified.symm.trans identified'
  rw [if_pos delete] at rest
  cases rest
  exact ⟨session, accountId_of_requestSession service.defaults carries found, rfl⟩

end Service

section Parts

variable {store : Store} (served : Served store) {service : Service} {moment : Moment}
variable {request : Request} {σ : Type} {scheduler : Scheduler σ} {state : σ}
variable {owner : AccountId} (carries : requestAccount request.headers = .ok owner)
variable {route : Route} (leads : Route.ofTarget? request.target = some route)
variable {outcome : Outcome Response σ}
variable (ran : outcome = (service.handle moment request).run scheduler store state)
variable (succeeds : outcome.result.isSuccess = true)

include ran in
theorem store_of_asks {task : Task} (asks : service.task moment request = task) :
    outcome.store = (task.outcome service.release moment scheduler store state).store := by
  rw [ran, Service.handle_run_eq, asks]
  rfl

include served ran in
theorem served_of_ran : Served outcome.store := by
  rw [ran]
  exact served.request service moment request _ _

include served carries leads ran succeeds

/-- A group that is created is the one that the body drafts, and it is read as the response
shows it. -/
theorem Served.shows_created_group (post : request.method = "POST") (at_groups : route = .groups) :
    ∃ draft : GroupDraft, readBody GroupDraft request = .ok draft ∧
      let group : Group :=
        { id := moment.freshId
          accountId := owner
          name := Text.trim draft.name
          templateId := draft.templateId
          capacity := draft.capacity
          createdAt := moment.now
          updatedAt := moment.now }
      outcome.result.body = .json (Json.encode group) ∧
      Shows outcome.store owner (.group group.name) (Json.encode group) ∧
      KeepsOthers store outcome.store owner (.group group.name) := by
  subst at_groups
  have servedAfter := served_of_ran served ran
  have here : service.route? request = some .groups := service.route?_of_guarded request leads rfl
  have about : Operation.ofRequest? request.method .groups = some .submit := if_pos post
  obtain ⟨task, session, group, call, spells, changes, -, left, -, body⟩ :=
    service.completed_of_run moment request ran served.keyed here about succeeds
  cases spells with
  | @creates session draft _ found read =>
      obtain rfl : session.accountId = owner :=
        accountId_of_requestSession service.defaults carries found
      cases changes with
      | creates =>
          have replaces : Replaces store outcome.store session.accountId
              (.group (Text.trim draft.name))
              (some (Json.encode (draft.group moment session (Text.trim draft.name)))) := by
            rw [left]
            exact replaces_leaves .submit
          have stored : outcome.store.groups.find? (session.accountId, Text.trim draft.name) =
              some (draft.group moment session (Text.trim draft.name)) := by
            rw [left]
            exact find?_leaves .submit
          have named := (servedAfter.wellFormed.groups _ _ stored).named
          have addressed : ∃ target route, Route.ofTarget? target = some route ∧
              (Resource.group (Text.trim draft.name)).At route :=
            ⟨_, _, named.ofTarget?, .group (by rw [readSegment, named.percentDecode?]; rfl)⟩
          exact ⟨draft, read, body,
            shows_of_value? servedAfter.keyed addressed ((replaces _).trans (if_pos rfl)),
            replaces.keepsOthers⟩

/-- A template that is created is the one that the body drafts, and it is read as the response
shows it. -/
theorem Served.shows_created_template (post : request.method = "POST")
    (at_templates : route = .templates) :
    ∃ draft : TemplateDraft, readBody TemplateDraft request = .ok draft ∧
      let template : Template :=
        { id := moment.freshId
          accountId := owner
          name := Text.trim draft.name
          package := Text.trim draft.package
          imageId := Text.trim draft.imageId
          firewallEnabled := draft.firewallEnabled
          networks := draft.networks
          userData := draft.userData.filter (· ≠ "")
          tags := draft.tags
          metadata := draft.metadata
          createdAt := moment.now }
      outcome.result.body = .json (Json.encode template) ∧
      Shows outcome.store owner (.template template.id) (Json.encode template) ∧
      KeepsOthers store outcome.store owner (.template template.id) := by
  subst at_templates
  have servedAfter := served_of_ran served ran
  have here : service.route? request = some .templates :=
    service.route?_of_guarded request leads rfl
  have stored {task : Task} (asks : service.task moment request = task) := store_of_asks ran asks
  subst ran
  obtain ⟨allowed, read, carried⟩ := Service.readTask_of_success here rfl succeeds
  obtain ⟨session, draft, rfl, body, asks⟩ := Service.readTask_templates_eq_ok post carries read
  rw [asks] at carried
  obtain ⟨written, replaces⟩ := carried.createTemplate served.keyed
  rw [← stored asks] at replaces
  have addressed : ∃ target route, Route.ofTarget? target = some route ∧
      (Resource.template moment.freshId).At route :=
    ⟨_, _, ofTarget?_template _, .template (readIdentity_text _)⟩
  exact ⟨draft, body,
    (Service.responds_of_written here (by simp [post]) asks written).2,
    shows_of_value? servedAfter.keyed addressed ((replaces _).trans (if_pos rfl)),
    replaces.keepsOthers⟩

/-- An update changes the fields that it names, and the time of the update. -/
theorem Served.shows_updated {resource : Resource} (spelled : resource.At route)
    (put : request.method = "PUT") :
    ∃ (old : Group) (change : GroupChange), readBody GroupChange request = .ok change ∧
      Shows store owner resource (Json.encode old) ∧
      let new := { old with
        templateId := change.templateId.getD old.templateId
        capacity := change.capacity.getD old.capacity
        updatedAt := moment.now }
      outcome.result.body = .json (Json.encode new) ∧
      Shows outcome.store owner resource (Json.encode new) ∧
      KeepsOthers store outcome.store owner resource := by
  have keyed := served.keyed
  have keyedAfter := (served_of_ran served ran).keyed
  have guarded := Service.Gets.isGuarded_of_at spelled
  have here : service.route? request = some route :=
    service.route?_of_guarded request leads guarded
  have addressed : ∃ target route, Route.ofTarget? target = some route ∧ resource.At route :=
    ⟨_, _, leads, spelled⟩
  cases spelled with
  | template identified =>
      subst ran
      obtain ⟨allowed, -, -⟩ := Service.readTask_of_success here guarded succeeds
      rw [Service.serves, put] at allowed
      simp [Route.methods, Route.writeMethods] at allowed
  | @group segment name named =>
      have about : Operation.ofRequest? request.method (.group segment) = some .update := if_pos put
      obtain ⟨task, session, group, call, spells, changes, -, left, -, body⟩ :=
        service.completed_of_run moment request ran keyed here about succeeds
      cases spells with
      | @updates _ _ session change _ found named' read =>
          cases named.symm.trans named'
          obtain rfl : session.accountId = owner :=
            accountId_of_requestSession service.defaults carries found
          cases changes with
          | updates _ _ _ old stored =>
              have same : old.name = name := congrArg Prod.snd (keyed.groups _ _ stored)
              have replaces : Replaces store outcome.store session.accountId (.group old.name)
                  (some (Json.encode (change.apply moment.now old))) := by
                rw [left]
                exact replaces_leaves .update
              have before : (Resource.group name).value? store session.accountId =
                  some (Json.encode old) := by
                rw [Resource.value?, stored]
                rfl
              subst same
              exact ⟨old, change, read, shows_of_value? keyed addressed before, body,
                shows_of_value? keyedAfter addressed ((replaces _).trans (if_pos rfl)),
                replaces.keepsOthers⟩

theorem Served.hides_deleted {resource : Resource} (spelled : resource.At route)
    (delete : request.method = "DELETE") :
    outcome.result.status = 204 ∧ Hides outcome.store owner resource ∧
      KeepsOthers store outcome.store owner resource := by
  have keyed := served.keyed
  have guarded := Service.Gets.isGuarded_of_at spelled
  have here : service.route? request = some route :=
    service.route?_of_guarded request leads guarded
  cases spelled with
  | @template segment id identified =>
      have stored {task : Task} (asks : service.task moment request = task) :=
        store_of_asks ran asks
      subst ran
      obtain ⟨allowed, read, carried⟩ := Service.readTask_of_success here guarded succeeds
      obtain ⟨session, rfl, asks⟩ := Service.readTask_template_eq_ok identified delete carries read
      rw [asks] at carried
      obtain ⟨written, replaces⟩ := carried.deleteTemplate keyed
      rw [← stored asks] at replaces
      exact ⟨(Service.responds_of_written here (by simp [delete]) asks written).1,
        replaces.hides, replaces.keepsOthers⟩
  | @group segment name named =>
      have about : Operation.ofRequest? request.method (.group segment) = some .delete := by
        rw [Operation.ofRequest?, if_neg (by simp [delete]), if_pos delete]
      obtain ⟨task, session, group, call, spells, changes, -, left, status, -⟩ :=
        service.completed_of_run moment request ran keyed here about succeeds
      cases spells with
      | deletes _ found named' =>
          cases named.symm.trans named'
          cases changes with
          | deletes session _ _ stored =>
              obtain rfl : session.accountId = owner :=
                accountId_of_requestSession service.defaults carries found
              obtain rfl : group.name = name := congrArg Prod.snd (keyed.groups _ _ stored)
              have replaces : Replaces store outcome.store session.accountId (.group group.name)
                  none := by
                rw [left]
                exact replaces_leaves .delete
              exact ⟨status, replaces.hides, replaces.keepsOthers⟩

end Parts

/-- Whatever requests have led to the store, what a request writes with success is what its
account reads afterwards: a group or a template that is created or updated is shown as the
response shows it and is listed once, one that is deleted is not found, and every other one
is read as before.  What is created is what the body drafts, and an update keeps every field
that it does not name, but for the time of the update. -/
theorem Served.reads_its_writes {store : Store} (served : Served store) (service : Service)
    (moment : Moment) (request : Request) {σ : Type} (scheduler : Scheduler σ) (state : σ)
    {owner : AccountId} (carries : requestAccount request.headers = .ok owner) {route : Route}
    (leads : Route.ofTarget? request.target = some route) :
    let outcome := (service.handle moment request).run scheduler store state
    outcome.result.isSuccess = true →
      (request.method = "POST" → route = .groups →
        ∃ draft : GroupDraft, readBody GroupDraft request = .ok draft ∧
          let group : Group :=
            { id := moment.freshId
              accountId := owner
              name := Text.trim draft.name
              templateId := draft.templateId
              capacity := draft.capacity
              createdAt := moment.now
              updatedAt := moment.now }
          outcome.result.body = .json (Json.encode group) ∧
          Shows outcome.store owner (.group group.name) (Json.encode group) ∧
          KeepsOthers store outcome.store owner (.group group.name)) ∧
      (request.method = "POST" → route = .templates →
        ∃ draft : TemplateDraft, readBody TemplateDraft request = .ok draft ∧
          let template : Template :=
            { id := moment.freshId
              accountId := owner
              name := Text.trim draft.name
              package := Text.trim draft.package
              imageId := Text.trim draft.imageId
              firewallEnabled := draft.firewallEnabled
              networks := draft.networks
              userData := draft.userData.filter (· ≠ "")
              tags := draft.tags
              metadata := draft.metadata
              createdAt := moment.now }
          outcome.result.body = .json (Json.encode template) ∧
          Shows outcome.store owner (.template template.id) (Json.encode template) ∧
          KeepsOthers store outcome.store owner (.template template.id)) ∧
      (∀ resource : Resource, resource.At route → request.method = "PUT" →
        ∃ (old : Group) (change : GroupChange), readBody GroupChange request = .ok change ∧
          Shows store owner resource (Json.encode old) ∧
          let new := { old with
            templateId := change.templateId.getD old.templateId
            capacity := change.capacity.getD old.capacity
            updatedAt := moment.now }
          outcome.result.body = .json (Json.encode new) ∧
          Shows outcome.store owner resource (Json.encode new) ∧
          KeepsOthers store outcome.store owner resource) ∧
      (∀ resource : Resource, resource.At route → request.method = "DELETE" →
        outcome.result.status = 204 ∧ Hides outcome.store owner resource ∧
        KeepsOthers store outcome.store owner resource) := by
  intro outcome succeeds
  refine ⟨?_, ?_, ?_, ?_⟩
  · intro post at_groups
    exact served.shows_created_group carries leads rfl succeeds post at_groups
  · intro post at_templates
    exact served.shows_created_template carries leads rfl succeeds post at_templates
  · intro resource spelled put
    exact served.shows_updated carries leads rfl succeeds spelled put
  · intro resource spelled delete
    exact served.hides_deleted carries leads rfl succeeds spelled delete

namespace Sample

/-- The first tenant wants three machines in its group. -/
def groupUpdate : Request :=
  request 1 "PUT" "/v1/tsg/web" "\x7b\"capacity\":3\x7d"

/-- What the update leaves of the store with the group. -/
def afterGroupUpdate : Outcome Response Unit :=
  (service.handle (moment 9) groupUpdate).run granting withGroup ()

end Sample

open Sample in
/-- The group of the first tenant is read with the capacity that was written. -/
theorem update_is_read_back :
    Served withGroup ∧ requestAccount groupUpdate.headers = .ok ⟨⟨1⟩⟩ ∧
      Route.ofTarget? groupUpdate.target = some (.group "web") ∧
      afterGroupUpdate.result.isSuccess = true ∧
      ∃ new : Group, new.capacity = 3 ∧ afterGroupUpdate.result.body = .json (Json.encode new) ∧
        Shows afterGroupUpdate.store ⟨⟨1⟩⟩ (.group "web") (Json.encode new) := by
  have carries : requestAccount groupUpdate.headers = .ok ⟨⟨1⟩⟩ := by decide +kernel
  have leads : Route.ofTarget? groupUpdate.target = some (.group "web") := by decide +kernel
  have succeeds : afterGroupUpdate.result.isSuccess = true := by decide +kernel
  have change : readBody GroupChange groupUpdate = .ok ⟨none, some 3⟩ := by decide +kernel
  have named : readSegment "web" = .ok "web" := by decide +kernel
  obtain ⟨-, -, updates, -⟩ := served_withGroup.reads_its_writes service (moment 9) groupUpdate
    granting () carries leads succeeds
  obtain ⟨old, other, read, -, body, shows, -⟩ := updates (.group "web") (.group named) rfl
  cases change.symm.trans read
  unfold afterGroupUpdate at succeeds ⊢
  refine ⟨served_withGroup, carries, leads, succeeds, _, ?_, body, shows⟩
  rfl

end Http

end ServiceGroups
