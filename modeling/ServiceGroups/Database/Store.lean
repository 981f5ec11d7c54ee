import ServiceGroups.Database.Datum
import ServiceGroups.Database.Statement
import ServiceGroups.Store.Basic

/-!
# The store in the database

Every call of the store is at most one statement.  What can be refused without
the database is refused before anything is sent.  A constraint that a write
breaks is a conflict; every other error of the database is a failure of the
backend.
-/

namespace ServiceGroups

namespace Database

/-- What the database answers to a statement. -/
inductive Answer where
  | affected (count : Nat)
  | rows (rows : List Row)
  | refused (code : String) (message : String)
  | closed

/-- A statement with its bound values. -/
structure Request where
  statement : Statement
  values : List Datum

/-- A connection: the answers it will give, and what was sent over it. -/
structure Connection where
  script : List Answer
  sent : List Request

/-- Whether the database can be reached, and with what answers. -/
inductive Availability where
  | unreachable
  | reachable (script : List Answer)

def connect : Availability → Except Failure Connection
  | .unreachable => .error (.backend "connect postgres" "connection failed")
  | .reachable script => .ok ⟨script, []⟩

/-- Send a statement.  Without an answer in the script one row is affected and
none is given. -/
def Connection.send (connection : Connection) (request : Request) : Answer × Connection :=
  let sent := connection.sent ++ [request]
  match connection.script with
  | [] => (.affected 1, { connection with sent })
  | answer :: script => (answer, ⟨script, sent⟩)

/-- Is this the code of a broken constraint: a key that is taken, or a row that
is referred to and does not exist? -/
def isConstraintCode (code : String) : Bool :=
  code == "23505" || code == "23503"

/-- How many rows a write has changed.  Where `constrained`, a broken constraint
is a conflict. -/
def affectedRows (context : String) (constrained : Bool) : Answer → Except Failure Nat
  | .affected count => .ok count
  | .rows rows => .ok rows.length
  | .refused code message =>
    if constrained && isConstraintCode code then
      .error (.conflict (context ++ ": " ++ message))
    else .error (.backend context message)
  | .closed => .error (.backend context "connection closed")

def givenRows (context : String) : Answer → Except Failure (List Row)
  | .rows rows => .ok rows
  | .affected _ => .ok []
  | .refused _ message => .error (.backend context message)
  | .closed => .error (.backend context "connection closed")

/-- A write that has to change some row. -/
def requireAffected (failure : Failure) (count : Nat) : Except Failure Unit :=
  if count = 0 then .error failure else .ok ()

/-- The request for a call, or why it is not sent. -/
def requestFor : StoreCall → Except Failure Request
  | .upsertAccount account => .ok ⟨upsertAccount, accountValues account⟩
  | .account id => .ok ⟨selectAccount, [.uuid id.uuid]⟩
  | .upsertCredential credential => .ok ⟨upsertCredential, credentialValues credential⟩
  | .credential id => .ok ⟨selectCredential, [.uuid id.uuid]⟩
  | .upsertTemplate template => .ok ⟨upsertTemplate, templateValues template⟩
  | .template account id => .ok ⟨selectTemplate, [.uuid account.uuid, .uuid id]⟩
  | .templates account page => do
    .ok ⟨selectTemplates, .uuid account.uuid :: (← pageValues page)⟩
  | .deleteTemplate account id => .ok ⟨deleteTemplate, [.uuid account.uuid, .uuid id]⟩
  | .insertGroup group => do .ok ⟨insertGroup, groupValues group (← storedCapacity group)⟩
  | .upsertGroup group => do .ok ⟨upsertGroup, groupValues group (← storedCapacity group)⟩
  | .group account name => .ok ⟨selectGroup, [.uuid account.uuid, .text name]⟩
  | .groups account page => do
    .ok ⟨selectGroups, .uuid account.uuid :: (← pageValues page)⟩
  | .deleteGroup account name => .ok ⟨deleteGroup, [.uuid account.uuid, .text name]⟩

def replyOf (call : StoreCall) (answer : Answer) : Except Failure call.Reply :=
  match call with
  | .upsertAccount _ => do
    let _ ← affectedRows "upsert account" true answer
  | .account _ => do (← givenRows "get account" answer).head?.mapM accountOfRow
  | .upsertCredential _ => do
    let _ ← affectedRows "upsert triton credential" true answer
  | .credential _ => do
    (← givenRows "get triton credential" answer).head?.mapM credentialOfRow
  | .upsertTemplate template => do
    let count ← affectedRows "upsert template" true answer
    requireAffected
      (.conflict ("template " ++ template.id.text ++ " belongs to another account")) count
  | .template _ _ => do (← givenRows "get template" answer).head?.mapM templateOfRow
  | .templates _ _ => do (← givenRows "list templates" answer).mapM templateOfRow
  | .deleteTemplate _ id => do
    let count ← affectedRows "delete template" true answer
    requireAffected (.notFound ("template " ++ id.text)) count
  | .insertGroup _ => do
    let _ ← affectedRows "insert group" true answer
  | .upsertGroup _ => do
    let _ ← affectedRows "upsert group" true answer
  | .group _ _ => do (← givenRows "get group" answer).head?.mapM groupOfRow
  | .groups _ _ => do (← givenRows "list groups" answer).mapM groupOfRow
  | .deleteGroup _ name => do
    let count ← affectedRows "delete group" false answer
    requireAffected (.notFound ("service group " ++ name)) count

def perform (connection : Connection) (call : StoreCall) :
    Except Failure call.Reply × Connection :=
  match requestFor call with
  | .error failure => (.error failure, connection)
  | .ok request =>
    let (answer, connection) := connection.send request
    (replyOf call answer, connection)

def migrate (connection : Connection) : Except Failure Unit × Connection :=
  let (answer, connection) := connection.send ⟨createTables, []⟩
  ((affectedRows "apply migrations" false answer).map fun _ => (), connection)

end Database

end ServiceGroups
