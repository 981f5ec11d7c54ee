import ServiceGroups.Json.Value

/-!
# Requests and responses

A request names a method and a target and carries headers and a body.  Header
names are compared without regard to case, and of several headers of one name
the first counts.  A header value is readable when it is visible ASCII.
-/

namespace ServiceGroups

namespace Http

/-- Named header values, in the order of the message. -/
abbrev Headers : Type :=
  List (String × String)

def foldName (name : String) : String :=
  String.ofList (name.toList.map Char.toLower)

def Headers.find? (headers : Headers) (name : String) : Option String :=
  (List.find? (fun header => foldName header.1 == foldName name) headers).map Prod.snd

/-- Is the character visible ASCII, a blank or a tab? -/
def isReadableChar (char : Char) : Bool :=
  (0x20 ≤ char.toNat && char.toNat < 0x7f) || char == '\t'

/-- The text of a header value, if it is readable. -/
def readable? (value : String) : Option String :=
  if value.toList.all isReadableChar then some value else none

/-- A request. -/
structure Request where
  method : String
  target : String
  headers : Headers
  body : String

/-- What a response carries. -/
inductive Body where
  | none
  | json (value : Json.Value)
  | text (text : String)

/-- A response. -/
structure Response where
  status : Nat
  contentType : Option String
  allow : Option String
  requestId : Option String
  body : Body

namespace Response

def empty (status : Nat) : Response :=
  ⟨status, none, none, none, .none⟩

def json (status : Nat) (value : Json.Value) : Response :=
  ⟨status, some "application/json", none, none, .json value⟩

def text (status : Nat) (content : String) : Response :=
  ⟨status, some "text/plain; charset=utf-8", none, none, .text content⟩

def isSuccess (response : Response) : Bool :=
  200 ≤ response.status && response.status < 300

end Response

end Http

end ServiceGroups
