import ServiceGroups.Http.Status
import ServiceGroups.Nomad.Wire
import ServiceGroups.Program
import ServiceGroups.Settings
import ServiceGroups.Url.Reader

/-!
# The client of the job scheduler

Every call is one request under the configured address, with the namespace and
region of the settings in its query and the token in a header.  Redirects are
followed for a while; the answer that is no redirect decides.  An answer whose
status is no success, a connection that breaks, and a body that does not decode
are failures of the backend; a validation that finds errors is a failure of the
input.
-/

namespace ServiceGroups

namespace Nomad

variable [Host.Domains]

/-- A client: the configured address without slashes at its end, and what goes
with every request. -/
structure Client where
  baseUrl : String
  token : Option String
  space : Option String
  region : Option String

namespace Client

def ofSettings (settings : SchedulerSettings) : Client :=
  ⟨Text.trimEndChar '/' settings.address, settings.token, settings.space, settings.region⟩

end Client

/-- What is asked of the scheduler in one request. -/
structure Query where
  /-- What the request is for, as failures name it. -/
  purpose : String
  method : Method
  endpoint : String
  /-- Pairs added to the query after namespace and region. -/
  pairs : List (String × String)
  body : Option Json.Value

namespace Query

def leader : Query :=
  ⟨"leader", .get, "/v1/status/leader", [], none⟩

def ofCall : JobsCall → Query
  | .parse text =>
    ⟨"parse", .post, "/v1/jobs/parse", [],
      some (.object [("Canonicalize", .boolean true), ("JobHCL", .string text)])⟩
  | .validate job =>
    ⟨"validate", .post, "/v1/validate/job", [], some (.object [("Job", job.form)])⟩
  | .register job => ⟨"register", .post, "/v1/jobs", [], some (.object [("Job", job.form)])⟩
  | .deregister id purge =>
    ⟨"deregister", .delete, "/v1/job/" ++ id, [("purge", if purge then "true" else "false")],
      none⟩
  | .force id => ⟨"periodic force", .post, "/v1/job/" ++ id ++ "/periodic/force", [], none⟩

end Query

def isTokenChar (char : Char) : Bool :=
  char == '\t' || (0x20 ≤ char.toNat && char.toNat != 0x7f)

namespace Client

def checkToken (client : Client) : Except Failure Unit :=
  if client.token.all fun token => token.toList.all isTokenChar then .ok ()
  else .error (.invalidInput "invalid nomad token: failed to parse header value")

/-- The address of an endpoint, before it is read. -/
def endpointText (client : Client) (endpoint : String) : String :=
  client.baseUrl ++ "/" ++ Text.trimStartChar '/' endpoint

/-- The pairs of a request's query: namespace, region, and its own. -/
def pairs (client : Client) (query : Query) : List (String × String) :=
  (client.space.map (("namespace", ·))).toList ++
    (client.region.map (("region", ·))).toList ++ query.pairs

/-- The request for a query; its address may not be one. -/
def request? (client : Client) (query : Query) : Option Request :=
  match Url.read? (client.endpointText query.endpoint) with
  | some (.web url) =>
    some
      ⟨query.method, url.withPairs (Text.formEncode (client.pairs query)), client.token,
        query.body⟩
  | _ => none

end Client

/-- The request that follows a redirect: after a change of place it is sent
again as it was, otherwise only the new place is read. -/
def Request.redirected (request : Request) (status : Nat) (url : Url) : Request :=
  if status = 307 ∨ status = 308 then { request with url }
  else { request with url, method := .get, body := none }

def isRedirect (status : Nat) : Bool :=
  status == 301 || status == 302 || status == 303 || status == 307 || status == 308

def maxRedirects : Nat :=
  10

/-- An answer that decides: its status and its body. -/
structure Answer where
  status : Nat
  body : String
deriving DecidableEq, Repr

/-- A body, unless the status says that there is none. -/
def bodyOf (status : Nat) (body : String) : String :=
  if status = 204 ∨ status = 304 then "" else body

/-- Send a request and follow up to `redirects` redirects.  A redirect to a
place that cannot be read is an answer; one to a foreign scheme, or one too
many, breaks off.  The request that the answer belongs to is given with it. -/
def exchange : (redirects : Nat) → Wire → Request → Option (Request × Answer) × Wire
  | redirects, wire, request =>
    match wire.send request with
    | (.reply status location body, wire) =>
      let answer := some (request, Answer.mk status (bodyOf status body))
      match (location.filter fun _ => isRedirect status).bind (request.url.join ·) with
      | none => (answer, wire)
      | some .foreign => (none, wire)
      | some (.web url) =>
        match redirects with
        | 0 => (none, wire)
        | redirects + 1 => exchange redirects wire (request.redirected status url)
    | (_, wire) => (none, wire)

/-- What a finished exchange means for a query. -/
def judge (query : Query) : Option (Request × Answer) → Except Failure String
  | none => .error (.backend ("nomad " ++ query.purpose ++ " request") "request failed")
  | some (_, answer) =>
    if Http.isSuccessStatus answer.status then .ok answer.body
    else
      .error (.backendMessage
        ("nomad returned " ++ Http.statusText answer.status ++ ": " ++ Text.trim answer.body))

def decodeBody (α : Type) [Json.Form α] (query : Query) (body : String) : Except Failure α :=
  match Json.decode α body with
  | .ok value => .ok value
  | .error _ => .error (.backend ("parse nomad " ++ query.purpose ++ " response") "bad body")

namespace Client

/-- Carry out a query: the body of a successful answer. -/
def fetch (client : Client) (query : Query) (wire : Wire) : Except Failure String × Wire :=
  match client.checkToken with
  | .error failure => (.error failure, wire)
  | .ok () =>
    match client.request? query with
    | none => (judge query none, wire)
    | some request =>
      let (outcome, wire) := exchange maxRedirects wire request
      (judge query outcome, wire)

end Client

/-- Plain text as JSON. -/
structure PlainText where
  text : String
deriving DecidableEq

instance : Json.Form PlainText where
  encode plain := .string plain.text
  decode node := node.text.map PlainText.mk

/-- A value of any shape. -/
structure AnyForm where
  value : Json.Value

instance : Json.Form AnyForm where
  encode form := form.value
  decode node :=
    match node.value? Json.maxDepth with
    | some value => .ok ⟨value⟩
    | none => .error .malformed

/-- What the scheduler says about a job it was asked to validate. -/
structure Validation where
  error : Option String
  errors : Option (List String)
deriving DecidableEq

instance : Json.Record Validation where
  fields := [.default "Error" (.optional .text) none,
    .default "ValidationErrors" (.optional .texts) none]
  toRow validation := (validation.error, validation.errors, ())
  ofRow := fun (error, errors, ()) => ⟨error, errors⟩
  ofRow_toRow _ := rfl
  toRow_ofRow _ := rfl

/-- The errors of a validation, if it found any. -/
def Validation.complaint? (validation : Validation) : Option String :=
  match validation.errors.filter (!·.isEmpty) with
  | some errors => some (String.intercalate "; " errors)
  | none => validation.error.bind Text.nonBlank?

/-- A job that passed validation, or the errors found in it. -/
def Validation.judge (validation : Validation) : Except Failure Unit :=
  match validation.complaint? with
  | some complaint => .error (.invalidInput complaint)
  | none => .ok ()

/-- What the body of a successful answer gives for a call. -/
def replyOf (call : JobsCall) (body : String) : Except Failure call.Reply :=
  match call with
  | .parse text => do
    let form ← decodeBody AnyForm (.ofCall (.parse text)) body
    Job.Spec.ofForm form.value
  | .validate job => do
    let validation ← decodeBody Validation (.ofCall (.validate job)) body
    validation.judge
  | .register job => decodeBody Evaluation (.ofCall (.register job)) body
  | .deregister id purge => decodeBody Evaluation (.ofCall (.deregister id purge)) body
  | .force id => decodeBody Evaluation (.ofCall (.force id)) body

namespace Client

def call (client : Client) (call : JobsCall) (wire : Wire) :
    Except Failure call.Reply × Wire :=
  let (body, wire) := client.fetch (.ofCall call) wire
  (body.bind (replyOf call), wire)

def leader (client : Client) (wire : Wire) : Except Failure String × Wire :=
  let (body, wire) := client.fetch .leader wire
  (body.bind fun body => (decodeBody PlainText .leader body).map PlainText.text, wire)

def scheduler (client : Client) : Scheduler Wire where
  answer call wire := client.call call wire

end Client

end Nomad

end ServiceGroups
