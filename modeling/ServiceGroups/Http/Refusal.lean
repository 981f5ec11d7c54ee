import ServiceGroups.Failure
import ServiceGroups.Http.Message

/-!
# Refusals

A request is refused because its session or its input is wrong, because it is
not authenticated, or because an operation failed.  The refusal decides the
status of the response and its message is the body.  A request that cannot be
read in the first place is answered in plain text.
-/

namespace ServiceGroups

namespace Http

/-- Why a request that could be read is refused. -/
inductive Refusal where
  | missingAccountId
  | invalidAccountId (detail : String)
  | unauthorized
  | invalidInput (detail : String)
  | failed (failure : Failure)
deriving DecidableEq, Repr

namespace Refusal

def failureStatus : Failure → Nat
  | .invalidInput _ => 400
  | .notFound _ => 404
  | .conflict _ => 409
  | .unauthorized _ => 401
  | .template _ => 500
  | .backend _ _ => 502
  | .backendMessage _ => 502
  | .orchestrator _ _ => 502

def status : Refusal → Nat
  | missingAccountId => 400
  | invalidAccountId _ => 400
  | unauthorized => 401
  | invalidInput _ => 400
  | failed failure => failureStatus failure

def message : Refusal → String
  | missingAccountId => "missing x-account-id header"
  | invalidAccountId detail => "invalid x-account-id header: " ++ detail
  | unauthorized => "unauthorized"
  | invalidInput detail => "invalid input: " ++ detail
  | failed failure => failure.message

/-- The messages of what a refusal came from, outermost first. -/
def sources : Refusal → List String
  | failed failure => failure.message :: failure.sources
  | _ => []

def body (refusal : Refusal) : Json.Value :=
  .object [("error", .string refusal.message)]

def response (refusal : Refusal) : Response :=
  .json refusal.status refusal.body

end Refusal

/-- Why a request cannot be read. -/
inductive Unreadable where
  | address
  | query
  | mediaType
  | tooLarge
  | malformed
  | mismatched
deriving DecidableEq, Repr

namespace Unreadable

def status : Unreadable → Nat
  | address => 400
  | query => 400
  | mediaType => 415
  | tooLarge => 413
  | malformed => 400
  | mismatched => 422

def message : Unreadable → String
  | address => "Invalid URL"
  | query => "Failed to deserialize query string"
  | mediaType => "Expected request with `Content-Type"
  | tooLarge => "Failed to buffer the request body"
  | malformed => "Failed to parse the request body as JSON"
  | mismatched => "Failed to deserialize the JSON body into the target type"

def response (reason : Unreadable) : Response :=
  .text reason.status reason.message

end Unreadable

/-- Why a request is not carried out. -/
inductive Denial where
  | refused (refusal : Refusal)
  | unreadable (reason : Unreadable)
deriving DecidableEq, Repr

/-- The response to a request that is not carried out. -/
def Denial.response : Denial → Response
  | refused refusal => refusal.response
  | unreadable reason => reason.response

end Http

end ServiceGroups
