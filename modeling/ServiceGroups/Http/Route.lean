import ServiceGroups.Http.Target
import ServiceGroups.Text.Form

/-!
# Routes

The path of a target is compared segment by segment, exactly as it is written;
only the last segment of a resource is free.  Each route has a fixed list of
methods, and a route that can be read can also be asked for its head.
-/

namespace ServiceGroups

namespace Http

/-- What a path leads to.  A free segment is kept as it is written. -/
inductive Route where
  /-- The health of the service, without authentication. -/
  | openHealth
  | health
  | groups
  | group (name : String)
  | templates
  | template (id : String)
deriving DecidableEq, Repr

namespace Route

/-- The route of a path given as segments. -/
def ofSegments? : List String → Option Route
  | ["", "health"] => some .openHealth
  | ["", "v1", "health"] => some .health
  | ["", "v1", "tsg"] => some .groups
  | ["", "v1", "tsg", name] => if name = "" then none else some (.group name)
  | ["", "v1", "templates"] => some .templates
  | ["", "v1", "templates", id] => if id = "" then none else some (.template id)
  | _ => none

def ofTarget? (target : String) : Option Route :=
  ofSegments? ((Text.splitAtEach '/' (Target.path target)).map String.ofList)

/-- The methods of a route besides reading it and its head. -/
def writeMethods : Route → List String
  | openHealth => []
  | health => []
  | groups => ["POST"]
  | group _ => ["PUT", "DELETE"]
  | templates => ["POST"]
  | template _ => ["DELETE"]

def methods (route : Route) : List String :=
  "GET" :: "HEAD" :: route.writeMethods

/-- The methods of a route as they are announced. -/
def allow (route : Route) : String :=
  String.intercalate "," route.methods

def isGuarded : Route → Bool
  | openHealth => false
  | _ => true

end Route

end Http

end ServiceGroups
