import ServiceGroups.Http.Layers
import ServiceGroups.Proofs.Http.GroupNames
import ServiceGroups.Proofs.Http.Reachable

/-!
# The authenticator comes first

What the authenticator refuses never reaches a handler, whatever its path, its method, its
headers and its body are, and so it touches neither the store nor the scheduler.  What it
accepts is answered as if there were no authenticator and no log.
-/

namespace ServiceGroups

namespace Http

/-- The responses of an endpoint without its records. -/
def Endpoint.responses (endpoint : Endpoint) (request : Request) : Program Response :=
  (endpoint request).bind fun answered => .done answered.1

theorem Endpoint.responses_mapResponse (endpoint : Endpoint)
    (change : Request → Response → Response) (request : Request) :
    (endpoint.mapResponse change).responses request =
      (endpoint.responses request).bind fun response => .done (change request response) := by
  simp only [responses, mapResponse, Program.bind_assoc, Program.bind]

/-- The log changes no response. -/
theorem Layer.responses_logging (elapsed : Nat) (inner : Endpoint) :
    (logging elapsed inner).responses = inner.responses := by
  funext request
  simp only [Endpoint.responses, logging, Program.bind_assoc, Program.bind]

theorem Route.isGuarded_of_ofSegments? {segments : List String} {route : Route}
    (leads : ofSegments? ("" :: "v1" :: segments) = some route) : route.isGuarded = true := by
  unfold ofSegments? at leads
  split at leads <;> grind [isGuarded]

/-- The path of a route under the version leads to a guarded route. -/
theorem Route.isGuarded_of_prefix {target : String} {route : Route}
    (versioned : "/v1/".toList <+: Target.path target)
    (leads : ofTarget? target = some route) : route.isGuarded = true := by
  obtain ⟨rest, same⟩ := versioned
  have pieces : Text.splitAtEach '/' (Target.path target) =
      [] :: "v1".toList :: Text.splitAtEach '/' rest := by
    rw [← same]
    calc Text.splitAtEach '/' ("/v1/".toList ++ rest)
        = [] :: Text.splitAtEach '/' ("v1".toList ++ '/' :: rest) :=
          Text.splitAtEach_append List.not_mem_nil _
      _ = [] :: "v1".toList :: Text.splitAtEach '/' rest := by
          rw [Text.splitAtEach_append (by decide)]
  rw [ofTarget?, pieces] at leads
  exact isGuarded_of_ofSegments? leads

namespace Service

variable (service : Service) (moment : Moment) (elapsed : Nat) (request : Request)

theorem responses_endpoint (route : Route) :
    (service.endpoint moment route).responses request = service.inner moment request route := by
  simp only [Endpoint.responses, endpoint, Program.bind_assoc, Program.bind, Program.bind_done]

theorem responses_guarded (route : Route) :
    (service.guarded moment route).responses request =
      if route.isGuarded then service.authenticate request (service.inner moment request route)
      else service.inner moment request route := by
  unfold guarded
  split
  · unfold Endpoint.responses Layer.authentication authenticate accepts
    split
    · exact service.responses_endpoint moment request route
    · rfl
  · exact service.responses_endpoint moment request route

theorem responses_routes :
    (service.routes moment).responses request =
      match service.route? request with
      | none => .done (.empty 404)
      | some route => service.onRoute moment request route := by
  unfold Endpoint.responses routes
  cases service.route? request with
  | none => rfl
  | some route =>
      have responses := (service.guarded moment route).responses_mapResponse
        (fun request response => withoutBody request (announcing route request response)) request
      rw [responses_guarded] at responses
      exact responses

/-- The layers together answer as the service does. -/
theorem responses_layered :
    (service.layered moment elapsed).responses request = service.handle moment request := by
  have unlogged : (if service.hasOuterLayers then
      Layer.logging elapsed (service.routes moment) else service.routes moment).responses request =
        (service.routes moment).responses request := by
    split
    · rw [Layer.responses_logging]
    · rfl
  unfold layered handle
  rw [Endpoint.responses_mapResponse, unlogged]
  exact congrArg
    (fun answer : Program Response =>
      answer.bind fun response => .done (service.identify moment request response))
    (service.responses_routes moment request)

/-- What is accepted is answered as by the bare routes. -/
theorem handle_of_accepted (accepted : service.accepts request = true) :
    service.handle moment request =
      (service.bare moment request).bind fun response =>
        .done (service.identify moment request response) := by
  unfold handle bare
  cases service.route? request with
  | none => rfl
  | some route => simp only [onRoute, authenticate, accepted, if_true, ite_self]

theorem innerTask_openHealth :
    ∃ result, service.innerTask moment request .openHealth = .settled result := by
  unfold innerTask
  split <;> exact ⟨_, rfl⟩

/-- What is refused asks for nothing. -/
theorem task_of_refused (refused : service.accepts request = false) :
    ∃ result, service.task moment request = .settled result ∧
      ∀ route, service.route? request = some route → route.isGuarded = true →
        result = .error (.refused .unauthorized) := by
  unfold task
  cases service.route? request with
  | none => exact ⟨_, rfl, fun _ leads => nomatch leads⟩
  | some route =>
      cases guarded : route.isGuarded with
      | true => exact ⟨_, by simp [guarded, refused], fun _ _ _ => rfl⟩
      | false =>
          obtain rfl : route = .openHealth := by cases route <;> first | rfl | cases guarded
          obtain ⟨result, settled⟩ := service.innerTask_openHealth moment request
          refine ⟨result, by simpa [guarded] using settled, ?_⟩
          intro route leads isGuarded
          cases leads
          cases isGuarded

theorem handle_of_refused (refused : service.accepts request = false) :
    ∃ result, service.handle moment request =
        .done (service.finish moment request (responseOf result)) ∧
      ∀ route, service.route? request = some route → route.isGuarded = true →
        result = .error (.refused .unauthorized) := by
  obtain ⟨result, settled, unauthorized⟩ := service.task_of_refused moment request refused
  refine ⟨result, ?_, unauthorized⟩
  rw [handle_eq, settled]
  rfl

/-- A guarded route is a route of the service, with or without the outer layers. -/
theorem route?_of_guarded {route : Route} (leads : Route.ofTarget? request.target = some route)
    (guarded : route.isGuarded = true) : service.route? request = some route := by
  rw [route?, leads, Option.filter_some, guarded]
  rfl

theorem finish_contentType (response : Response) :
    (service.finish moment request response).contentType = response.contentType := by
  unfold finish identify withoutBody announcing
  repeat' split
  all_goals rfl

/-- Only the head of what is there comes without its body. -/
theorem finish_body {route : Route} (leads : service.route? request = some route)
    (response : Response) :
    (service.finish moment request response).body =
      if request.method = "HEAD" then .none else response.body := by
  unfold finish identify
  rw [leads]
  unfold withoutBody announcing
  repeat' split
  all_goals first | rfl | contradiction

/-- An endpoint whose response is settled is settled with its records. -/
theorem Endpoint.eq_done_of_responses {endpoint : Endpoint} {request : Request}
    {response : Response} (settled : endpoint.responses request = .done response) :
    ∃ records, endpoint request = .done (response, records) := by
  unfold Endpoint.responses at settled
  cases same : endpoint request with
  | done answered =>
      rw [same] at settled
      cases settled
      exact ⟨answered.2, rfl⟩
  | step call next =>
      rw [same] at settled
      cases settled

/-- Behind all layers a request that the authenticator refuses is settled without a call of
the store or of the scheduler, and a request that it accepts is answered as by the bare
routes, up to the identity in the answer.  On a guarded path the refusal wins over whatever
the method, the session, the path or the body would have led to. -/
theorem refusal_comes_first :
    (service.accepts request = false →
      ∃ answer records, service.layered moment elapsed request = .done (answer, records) ∧
        ("/v1/".toList <+: Target.path request.target →
          (Route.ofTarget? request.target).isSome = true →
          answer.status = 401 ∧ answer.contentType = some "application/json" ∧
          answer.body =
            if request.method = "HEAD" then .none
            else .json (.object [("error", .string "unauthorized")]))) ∧
    (service.accepts request = true →
      (service.layered moment elapsed).responses request =
        (service.bare moment request).bind fun response =>
          .done (service.identify moment request response)) ∧
    (service.layered moment elapsed).responses request = service.handle moment request := by
  have answers := service.responses_layered moment elapsed request
  refine ⟨fun refused => ?_, fun accepted => ?_, answers⟩
  · obtain ⟨result, settled, unauthorized⟩ := service.handle_of_refused moment request refused
    obtain ⟨records, layered⟩ := Endpoint.eq_done_of_responses (answers.trans settled)
    refine ⟨_, records, layered, fun versioned known => ?_⟩
    obtain ⟨route, leads⟩ := Option.isSome_iff_exists.mp known
    have guarded := Route.isGuarded_of_prefix versioned leads
    have here := service.route?_of_guarded request leads guarded
    obtain rfl := unauthorized route here guarded
    exact ⟨service.finish_status moment request _, service.finish_contentType moment request _,
      service.finish_body moment request here _⟩
  · exact answers.trans (service.handle_of_accepted moment request accepted)

end Service

namespace Sample

/-- A service that lets no request through. -/
def closed : Service :=
  { service with authenticator := some fun _ => false }

/-- A request for a group, without a session and with half a body. -/
def brokenRequest : Request :=
  ⟨"POST", "/v1/tsg", [("content-type", "application/json")], "\x7b\"group_name\":"⟩

/-- A request for the head of the health report. -/
def headRequest : Request :=
  ⟨"HEAD", "/v1/health", [], ""⟩

theorem route?_headRequest : closed.route? headRequest = some .health := by
  decide +kernel

end Sample

/-- The missing session and the broken body do not show. -/
theorem broken_request_is_refused_first :
    Sample.closed.accepts Sample.brokenRequest = false ∧
      ∃ answer records,
        Sample.closed.layered (Sample.moment 1) 3 Sample.brokenRequest =
          .done (answer, records) ∧
        answer.status = 401 ∧
        answer.body = .json (.object [("error", .string "unauthorized")]) := by
  obtain ⟨answer, records, settled, denied⟩ :=
    (Sample.closed.refusal_comes_first (Sample.moment 1) 3 Sample.brokenRequest).1 rfl
  obtain ⟨status, -, body⟩ := denied (by decide +kernel) (by decide +kernel)
  exact ⟨rfl, answer, records, settled, status, body⟩

/-- The head of a refusal has its status and its headers without its body. -/
theorem head_is_refused_without_body :
    Sample.closed.accepts Sample.headRequest = false ∧
      "/v1/".toList <+: Target.path Sample.headRequest.target ∧
      Route.ofTarget? Sample.headRequest.target = some .health ∧
      ∃ answer,
        Sample.closed.handle (Sample.moment 1) Sample.headRequest = .done answer ∧
        answer.status = 401 ∧ answer.body = .none := by
  obtain ⟨result, settled, unauthorized⟩ :=
    Sample.closed.handle_of_refused (Sample.moment 1) Sample.headRequest rfl
  obtain rfl := unauthorized .health Sample.route?_headRequest rfl
  refine ⟨rfl, by decide +kernel, by decide +kernel, _, settled, ?_, ?_⟩
  · exact Sample.closed.finish_status (Sample.moment 1) Sample.headRequest _
  · exact Sample.closed.finish_body (Sample.moment 1) Sample.headRequest
      Sample.route?_headRequest _

end Http

end ServiceGroups
