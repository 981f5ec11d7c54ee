import ServiceGroups.Http.Refusal
import ServiceGroups.Session
import ServiceGroups.Settings

/-!
# The session of a request

Every request names its account in a header and may name a data centre and a
cloud address of its own; without them the defaults of the service apply.
-/

namespace ServiceGroups

namespace Http

/-- What is said about a header value that is not visible ASCII. -/
def unreadableHeader : String :=
  "failed to convert header to a str"

def requestAccount (headers : Headers) : Except Refusal AccountId :=
  match headers.find? "x-account-id" with
  | none => .error .missingAccountId
  | some value =>
    match readable? value with
    | none => .error (.invalidAccountId unreadableHeader)
    | some text =>
      match AccountId.read? (Text.trim text) with
      | some id => .ok id
      | none => .error (.invalidAccountId (AccountId.readFailure (Text.trim text)))

/-- A header that replaces a default: readable and not blank. -/
def override? (headers : Headers) (name : String) : Option String :=
  (((headers.find? name).bind readable?).map Text.trim).filter (· ≠ "")

def requestSession (defaults : Option CloudSettings) (headers : Headers) :
    Except Refusal Session := do
  let accountId ← requestAccount headers
  match defaults with
  | none => .error (.invalidInput "session defaults not configured")
  | some cloud =>
    .ok
      { accountId
        datacenter := (override? headers "x-triton-datacenter").getD cloud.datacenter
        cloudUrl := (override? headers "x-triton-url").getD cloud.url }

end Http

end ServiceGroups
