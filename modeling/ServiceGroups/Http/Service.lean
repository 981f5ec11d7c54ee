import ServiceGroups.Http.Session
import ServiceGroups.Http.Templates

/-!
# The service

A request is answered in layers.  Its path decides whether there is anything to
answer at all; the authenticator decides whether the request may reach it; its
method decides what is done.  The handler then reads the session, the path and
the query or body, in that order, and runs.  The outer layer gives every
response the identity of its request.
-/

namespace ServiceGroups

namespace Http

/-- Decides whether a request may reach the service. -/
abbrev Authenticator : Type :=
  Headers → Bool

def permitAll : Authenticator :=
  fun _ => true

/-- A service as it is set up.  Without an authenticator it rejects everything;
without the outer layers it has no open health route and no request identities. -/
structure Service where
  authenticator : Option Authenticator
  defaults : Option CloudSettings
  release : String
  hasOuterLayers : Bool

/-- The name and version of the service in health reports. -/
def serviceVersion : String :=
  "0.1.0"

def health (moment : Moment) : Response :=
  .json 200 (.object
    [("status", .string "ok"), ("version", .string serviceVersion),
      ("uptime_secs", .natural moment.uptime)])

namespace Service

/-- The service that an agent sets up. -/
def ofSettings (settings : Settings) (authenticator : Authenticator) : Service :=
  ⟨some authenticator, some settings.cloud, settings.release, true⟩

def accepts (service : Service) (request : Request) : Bool :=
  service.authenticator.any fun authenticator => authenticator request.headers

def session (service : Service) (request : Request) : Handling Session :=
  Handling.check (requestSession service.defaults request.headers)

/-- What is done for a method of a route.  The head of a resource is read like
the resource itself. -/
def handling (service : Service) (moment : Moment) (request : Request) :
    Route → Handling Response
  | .openHealth => pure (health moment)
  | .health => pure (health moment)
  | .groups => do
    let session ← service.session request
    if request.method = "POST" then
      let draft ← Handling.read (readBody GroupDraft request)
      createGroup service.release moment session draft
    else
      let page ← Handling.read (readPage request.target)
      listGroups session page
  | .group segment => do
    let session ← service.session request
    let name ← Handling.read (readSegment segment)
    if request.method = "PUT" then
      let change ← Handling.read (readBody GroupChange request)
      updateGroup service.release moment session name change
    else if request.method = "DELETE" then
      deleteGroup service.release session name
    else showGroup session name
  | .templates => do
    let session ← service.session request
    if request.method = "POST" then
      let draft ← Handling.read (readBody TemplateDraft request)
      createTemplate moment session draft
    else
      let page ← Handling.read (readPage request.target)
      listTemplates session page
  | .template segment => do
    let session ← service.session request
    let id ← Handling.read (readIdentity segment)
    if request.method = "DELETE" then deleteTemplate session id
    else showTemplate session id

/-- The response of a handler, whether or not it succeeds. -/
def respond (handling : Handling Response) : Program Response :=
  handling.run.bind fun result =>
    .done (match result with
      | .ok response => response
      | .error denial => denial.response)

/-- A response without its body, for a request that asks for the head only. -/
def withoutBody (request : Request) (response : Response) : Response :=
  if request.method = "HEAD" then { response with body := .none } else response

def serves (route : Route) (request : Request) : Bool :=
  route.methods.contains request.method

/-- A response that announces the methods of the route, if the request used
another one. -/
def announcing (route : Route) (request : Request) (response : Response) : Response :=
  if serves route request then response else { response with allow := some route.allow }

/-- Answer a request on a route, once it is authenticated. -/
def inner (service : Service) (moment : Moment) (request : Request) (route : Route) :
    Program Response :=
  if serves route request then respond (service.handling moment request route)
  else .done (.empty 405)

/-- Let an accepted request through and refuse any other. -/
def authenticate (service : Service) (request : Request) (inner : Program Response) :
    Program Response :=
  if service.accepts request then inner else .done Refusal.unauthorized.response

def onRoute (service : Service) (moment : Moment) (request : Request) (route : Route) :
    Program Response :=
  let answer := service.inner moment request route
  let guarded := if route.isGuarded then service.authenticate request answer else answer
  guarded.bind fun response => .done (withoutBody request (announcing route request response))

/-- The route of a request, among those that the service has. -/
def route? (service : Service) (request : Request) : Option Route :=
  (Route.ofTarget? request.target).filter fun route => route.isGuarded || service.hasOuterLayers

/-- Give a response the identity of its request: the one the request carries,
or a fresh one. -/
def identify (service : Service) (moment : Moment) (request : Request)
    (response : Response) : Response :=
  if service.hasOuterLayers then
    let carried := request.headers.find? "x-request-id"
    { response with requestId := some (carried.getD moment.requestId) }
  else response

def handle (service : Service) (moment : Moment) (request : Request) : Program Response :=
  let answer : Program Response :=
    match service.route? request with
    | none => .done (.empty 404)
    | some route => service.onRoute moment request route
  answer.bind fun response => .done (service.identify moment request response)

end Service

end Http

end ServiceGroups
