/-!
# Request targets

A target names a resource by a path and a query, alone or behind a scheme and an
authority.  The fragment of a target names no resource of its own.  A target of
another form, such as a bare authority or an asterisk, has a path that leads
nowhere.
-/

namespace ServiceGroups

namespace Http

namespace Target

def isSchemeChar (char : Char) : Bool :=
  char.isAlphanum || "+-.~".toList.contains char

/-- May the character stand in an authority, rather than end it? -/
def isAuthorityChar (char : Char) : Bool :=
  char != '/' && char != '?' && char != '#'

/-- The part of a target that names the resource: what follows the scheme and the
authority, if they are there. -/
def resource (target : String) : List Char :=
  let scheme := target.toList.takeWhile isSchemeChar
  match target.toList.drop scheme.length with
  | ':' :: '/' :: '/' :: rest => rest.dropWhile isAuthorityChar
  | _ => target.toList

/-- The path of a target: everything before its query and its fragment. -/
def path (target : String) : List Char :=
  (resource target).takeWhile fun char => char != '?' && char != '#'

/-- The query of a target, without the fragment; empty if there is none. -/
def query (target : String) : List Char :=
  ((resource target).takeWhile (· != '#')).dropWhile (· != '?') |>.drop 1

end Target

end Http

end ServiceGroups
