import ServiceGroups.Http.Service
import ServiceGroups.Proofs.Running

/-!
# What a request asks for

Reading a request needs neither the store nor the scheduler.  Its route, the
authenticator, its method, its session and its body together give a task: an
answer that is already settled, or one of the operations on groups and templates.
Handling a request is carrying out its task and finishing the response.
-/

namespace ServiceGroups

namespace Http

/-- What a request asks for, once it is read. -/
inductive Task where
  /-- The answer does not depend on the store. -/
  | settled (result : Except Denial Response)
  | listGroups (session : Session) (page : Page)
  | createGroup (session : Session) (draft : GroupDraft)
  | showGroup (session : Session) (name : String)
  | updateGroup (session : Session) (name : String) (change : GroupChange)
  | deleteGroup (session : Session) (name : String)
  | listTemplates (session : Session) (page : Page)
  | createTemplate (session : Session) (draft : TemplateDraft)
  | showTemplate (session : Session) (id : Uuid)
  | deleteTemplate (session : Session) (id : Uuid)

/-- What is done for a task. -/
def Task.handling (release : String) (moment : Moment) : Task → Handling Response
  | settled result => ExceptT.mk (.done result)
  | listGroups session page => Http.listGroups session page
  | createGroup session draft => Http.createGroup release moment session draft
  | showGroup session name => Http.showGroup session name
  | updateGroup session name change => Http.updateGroup release moment session name change
  | deleteGroup session name => Http.deleteGroup release session name
  | listTemplates session page => Http.listTemplates session page
  | createTemplate session draft => Http.createTemplate moment session draft
  | showTemplate session id => Http.showTemplate session id
  | deleteTemplate session id => Http.deleteTemplate session id

/-- The response to a result, whether or not it is a denial. -/
def responseOf : Except Denial Response → Response
  | .ok response => response
  | .error denial => denial.response

namespace Service

variable (service : Service) (moment : Moment) (request : Request)

/-- Read a request on a route whose methods include the request's. -/
def readTask : Route → Except Denial Task
  | .openHealth => .ok (.settled (.ok (health moment)))
  | .health => .ok (.settled (.ok (health moment)))
  | .groups => do
    let session ← (requestSession service.defaults request.headers).mapError .refused
    if request.method = "POST" then
      let draft ← (readBody GroupDraft request).mapError .unreadable
      .ok (.createGroup session draft)
    else
      let page ← (readPage request.target).mapError .unreadable
      .ok (.listGroups session page)
  | .group segment => do
    let session ← (requestSession service.defaults request.headers).mapError .refused
    let name ← (readSegment segment).mapError .unreadable
    if request.method = "PUT" then
      let change ← (readBody GroupChange request).mapError .unreadable
      .ok (.updateGroup session name change)
    else if request.method = "DELETE" then .ok (.deleteGroup session name)
    else .ok (.showGroup session name)
  | .templates => do
    let session ← (requestSession service.defaults request.headers).mapError .refused
    if request.method = "POST" then
      let draft ← (readBody TemplateDraft request).mapError .unreadable
      .ok (.createTemplate session draft)
    else
      let page ← (readPage request.target).mapError .unreadable
      .ok (.listTemplates session page)
  | .template segment => do
    let session ← (requestSession service.defaults request.headers).mapError .refused
    let id ← (readIdentity segment).mapError .unreadable
    if request.method = "DELETE" then .ok (.deleteTemplate session id)
    else .ok (.showTemplate session id)

/-- The task of a request on a route, once it is authenticated. -/
def innerTask (route : Route) : Task :=
  if serves route request then
    match service.readTask moment request route with
    | .ok task => task
    | .error denial => .settled (.error denial)
  else .settled (.ok (.empty 405))

/-- The task of a request. -/
def task : Task :=
  match service.route? request with
  | none => .settled (.ok (.empty 404))
  | some route =>
    if route.isGuarded && !service.accepts request then
      .settled (.error (.refused .unauthorized))
    else service.innerTask moment request route

/-- What the outer layers make of a response. -/
def finish (response : Response) : Response :=
  service.identify moment request
    (match service.route? request with
    | none => response
    | some route => withoutBody request (announcing route request response))

theorem identify_status (response : Response) :
    (service.identify moment request response).status = response.status := by
  unfold identify
  split <;> rfl

theorem withoutBody_status (response : Response) :
    (withoutBody request response).status = response.status := by
  unfold withoutBody
  split <;> rfl

theorem announcing_status (route : Route) (response : Response) :
    (announcing route request response).status = response.status := by
  unfold announcing
  split <;> rfl

@[simp]
theorem finish_status (response : Response) :
    (service.finish moment request response).status = response.status := by
  rw [finish, identify_status]
  cases service.route? request with
  | none => rfl
  | some route => simp only [withoutBody_status, announcing_status]

@[simp]
theorem finish_isSuccess (response : Response) :
    (service.finish moment request response).isSuccess = response.isSuccess := by
  simp [Response.isSuccess]

theorem respond_eq (handling : Handling Response) :
    respond handling = (ExceptT.run handling).bind fun result => .done (responseOf result) :=
  rfl

/-- Carry out a task that was read, or deny it. -/
def carryOut (reading : Except Denial Task) : Handling Response :=
  match reading with
  | .ok task => task.handling service.release moment
  | .error denial => throw denial

theorem carryOut_check {α : Type} (result : Except Refusal α) (next : α → Except Denial Task) :
    service.carryOut moment (result.mapError .refused >>= next) =
      Handling.check result >>= fun value => service.carryOut moment (next value) := by
  cases result <;> rfl

theorem carryOut_read {α : Type} (result : Except Unreadable α)
    (next : α → Except Denial Task) :
    service.carryOut moment (result.mapError .unreadable >>= next) =
      Handling.read result >>= fun value => service.carryOut moment (next value) := by
  cases result <;> rfl

theorem carryOut_ite (condition : Prop) [Decidable condition]
    (first second : Except Denial Task) :
    service.carryOut moment (if condition then first else second) =
      if condition then service.carryOut moment first else service.carryOut moment second := by
  split <;> rfl

theorem carryOut_ok (task : Task) :
    service.carryOut moment (.ok task) = task.handling service.release moment :=
  rfl

/-- Reading the parts of a request one after another gives its task. -/
theorem handling_eq_carryOut (route : Route) :
    service.handling moment request route =
      service.carryOut moment (service.readTask moment request route) := by
  cases route <;>
    simp only [handling, readTask, session, carryOut_check, carryOut_read, carryOut_ite,
      carryOut_ok, Task.handling] <;> rfl

theorem inner_eq (route : Route) :
    service.inner moment request route =
      respond ((service.innerTask moment request route).handling service.release moment) := by
  unfold inner innerTask
  split
  · rw [handling_eq_carryOut]
    cases service.readTask moment request route <;> rfl
  · rfl

theorem handle_eq :
    service.handle moment request =
      (respond ((service.task moment request).handling service.release moment)).bind
        fun response => .done (service.finish moment request response) := by
  unfold handle task finish
  cases service.route? request with
  | none => rfl
  | some route =>
      simp only [onRoute, authenticate, inner_eq]
      rw [Program.bind_assoc]
      cases route.isGuarded <;> cases service.accepts request <;> rfl

/-- What handling a request leaves is what its task leaves, with the response
finished. -/
theorem run_handle {σ : Type} (scheduler : Scheduler σ) (store : Store) (state : σ) :
    (service.handle moment request).run scheduler store state =
      (Action.outcome scheduler store state
        ((service.task moment request).handling service.release moment)).map
        fun result => service.finish moment request (responseOf result) := by
  rw [handle_eq, Program.run_bind_done, respond_eq, Program.run_bind_done]
  rfl

end Service

end Http

end ServiceGroups
