import ServiceGroups.Json.Value
import ServiceGroups.Url.Basic

/-!
# The wire to the job scheduler

What becomes of requests is a script: each request sent takes the next answer
from it, and without an answer left the connection is dropped.  A wire that
reaches nothing does not even send.  The wire also remembers what was sent.
-/

namespace ServiceGroups

namespace Nomad

/-- The methods of requests to the scheduler. -/
inductive Method where
  | get
  | post
  | delete
deriving DecidableEq, Repr

def Method.text : Method → String
  | get => "GET"
  | post => "POST"
  | delete => "DELETE"

/-- A request as it is sent. -/
structure Request where
  method : Method
  url : Url
  token : Option String
  body : Option Json.Value

/-- What becomes of a request that was sent. -/
inductive Delivery where
  | reply (status : Nat) (location : Option String) (body : String)
  | dropped
  | timeout
deriving DecidableEq, Repr

/-- The wire: whether it reaches the scheduler, the answers left, and the
requests sent, earliest first. -/
structure Wire where
  isReachable : Bool
  script : List Delivery
  sent : List Request

namespace Wire

def unreachable : Wire :=
  ⟨false, [], []⟩

def scripted (script : List Delivery) : Wire :=
  ⟨true, script, []⟩

/-- Send a request; nothing comes of it when the wire reaches nothing. -/
def send (wire : Wire) (request : Request) : Delivery × Wire :=
  if wire.isReachable then
    let sent := wire.sent ++ [request]
    match wire.script with
    | [] => (.dropped, { wire with sent })
    | delivery :: script => (delivery, { wire with script, sent })
  else (.dropped, wire)

end Wire

end Nomad

end ServiceGroups
