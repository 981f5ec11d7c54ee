import ServiceGroups.Text.Numeral

/-!
# Web addresses

An address has a scheme, a host, a port unless it is the usual one, a path of
segments, and a query.  All parts are kept as they are sent: normalised and
percent-encoded.  A fragment or user information is never sent and not kept.
-/

namespace ServiceGroups

/-- A normalised web address. -/
structure Url where
  isSecure : Bool
  host : String
  port : Option UInt16
  path : List String
  query : Option String
deriving DecidableEq, Repr

namespace Url

def scheme (url : Url) : String :=
  if url.isSecure then "https" else "http"

/-- The port that a scheme uses when none is given. -/
def usualPort (isSecure : Bool) : UInt16 :=
  if isSecure then 443 else 80

def contactedPort (url : Url) : UInt16 :=
  url.port.getD (usualPort url.isSecure)

def pathText (url : Url) : String :=
  String.join (url.path.map ("/" ++ ·))

def text (url : Url) : String :=
  let port :=
    match url.port with
    | none => ""
    | some port => ":" ++ Text.decimalText port.toNat
  let query :=
    match url.query with
    | none => ""
    | some query => "?" ++ query
  url.scheme ++ "://" ++ url.host ++ port ++ url.pathText ++ query

/-- The address with more form-encoded pairs in its query.  A query that stays
empty is left out. -/
def withPairs (url : Url) (pairs : String) : Url :=
  let query := url.query.getD ""
  let joined := if query = "" then pairs else if pairs = "" then query else query ++ "&" ++ pairs
  { url with query := if joined = "" then none else some joined }

/-- Where an address leads: scheme, host and port. -/
def origin (url : Url) : Bool × String × UInt16 :=
  (url.isSecure, url.host, url.contactedPort)

end Url

end ServiceGroups
