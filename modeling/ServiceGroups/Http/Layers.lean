import ServiceGroups.Http.Service
import ServiceGroups.Logging

/-!
# Layers of the service

The service is built in layers around its routes.  A layer has the request before, and the
response after, what lies behind it, and it may record what it sees.  Next to the routes
lies the authenticator, then the log, then the layer that gives requests their identity.
Records leave the service beside the response.
-/

namespace ServiceGroups

namespace Http

/-- What is recorded about a request; the status and the milliseconds that the answer took
are known only behind the answer. -/
structure RequestRecord where
  level : LogLevel
  message : String
  method : String
  path : String
  status : Option Nat
  elapsed : Option Nat
deriving DecidableEq, Repr

/-- Answers requests and records what it sees of them. -/
abbrev Endpoint : Type :=
  Request → Program (Response × List RequestRecord)

/-- Change the responses of an endpoint. -/
def Endpoint.mapResponse (change : Request → Response → Response) (inner : Endpoint) :
    Endpoint := fun request =>
  (inner request).bind fun answered => .done (change request answered.1, answered.2)

/-- The path of a request as it is recorded. -/
def Request.pathText (request : Request) : String :=
  String.ofList (Target.path request.target)

namespace Layer

/-- What the authenticator accepts is let through; anything else is refused, and so is
everything if there is no authenticator. -/
def authentication (authenticator : Option Authenticator) (inner : Endpoint) : Endpoint :=
  fun request =>
    if authenticator.any fun authenticator => authenticator request.headers then inner request
    else
      .done (Refusal.unauthorized.response,
        [⟨.warn, "request not authenticated", request.method, request.pathText, none, none⟩])

/-- Record every request once it is answered. -/
def logging (elapsed : Nat) (inner : Endpoint) : Endpoint := fun request =>
  (inner request).bind fun answered =>
    .done (answered.1, answered.2 ++
      [⟨.info, "http request", request.method, request.pathText, some answered.1.status,
        some elapsed⟩])

end Layer

namespace Service

/-- What answers on a route behind all layers. -/
def endpoint (service : Service) (moment : Moment) (route : Route) : Endpoint := fun request =>
  (service.inner moment request route).bind fun response => .done (response, [])

def guarded (service : Service) (moment : Moment) (route : Route) : Endpoint :=
  if route.isGuarded then
    Layer.authentication service.authenticator (service.endpoint moment route)
  else service.endpoint moment route

/-- The routes of the service, with the authenticator in front of those that it guards. -/
def routes (service : Service) (moment : Moment) : Endpoint := fun request =>
  match service.route? request with
  | none => .done (.empty 404, [])
  | some route =>
    (service.guarded moment route).mapResponse
      (fun request response => withoutBody request (announcing route request response)) request

/-- The service with all its layers. -/
def layered (service : Service) (moment : Moment) (elapsed : Nat) : Endpoint :=
  let inner := service.routes moment
  (if service.hasOuterLayers then Layer.logging elapsed inner else inner).mapResponse
    (service.identify moment)

/-- The routes without any layer. -/
def bare (service : Service) (moment : Moment) (request : Request) : Program Response :=
  match service.route? request with
  | none => .done (.empty 404)
  | some route =>
    (service.inner moment request route).bind fun response =>
      .done (withoutBody request (announcing route request response))

end Service

end Http

end ServiceGroups
