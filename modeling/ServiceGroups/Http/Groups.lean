import ServiceGroups.Http.Draft
import ServiceGroups.Orchestrator

/-!
# Requests about groups

Every change of a group drives the job scheduler first and touches the store
only when the scheduler has accepted it.  All checks that can be made without
the scheduler come before its first call.
-/

namespace ServiceGroups

namespace Http

/-- What differs from one request to the next without being part of it: the
time, a fresh identity for a row, a fresh identity for the request, and how long
the service has been running. -/
structure Moment where
  now : Instant
  freshId : Uuid
  requestId : String
  uptime : Nat

/-- A step of answering a request. -/
abbrev Handling (α : Type) : Type :=
  Action Denial α

def Handling.ofAction {α : Type} (action : Action Failure α) : Handling α :=
  action.mapFailure fun failure => .refused (.failed failure)

def Handling.check {α : Type} (result : Except Refusal α) : Handling α :=
  ExceptT.mk (.done (result.mapError .refused))

/-- A part of the request that has to be readable. -/
def Handling.read {α : Type} (result : Except Unreadable α) : Handling α :=
  ExceptT.mk (.done (result.mapError .unreadable))

def Handling.fail {α : Type} (failure : Failure) : Handling α :=
  throw (.refused (.failed failure))

def Handling.ask (call : StoreCall) : Handling call.Reply :=
  Handling.ofAction (askStore call)

/-- The group of an account under a name. -/
def loadGroup (session : Session) (name : String) : Handling Group := do
  match ← Handling.ask (.group session.accountId name) with
  | some group => pure group
  | none => Handling.fail (.notFound ("service group " ++ name))

def listGroups (session : Session) (page : Page) : Handling Response := do
  let groups ← Handling.ask (.groups session.accountId page)
  return .json 200 (.array (groups.map Json.encode))

def GroupDraft.group (draft : GroupDraft) (moment : Moment) (session : Session)
    (name : String) : Group where
  id := moment.freshId
  accountId := session.accountId
  name := name
  templateId := draft.templateId
  capacity := draft.capacity
  createdAt := moment.now
  updatedAt := moment.now

def createGroup (release : String) (moment : Moment) (session : Session) (draft : GroupDraft) :
    Handling Response := do
  let name := Text.trim draft.name
  Handling.check (checkGroupName name)
  Handling.check (checkCapacity draft.capacity)
  let existing ← Handling.ask (.group session.accountId name)
  if existing.isSome then
    Handling.fail (.conflict ("service group " ++ name ++ " already exists"))
  let group := draft.group moment session name
  Handling.ofAction (Orchestrator.submit release session group)
  Handling.ask (.insertGroup group)
  return .json 201 (Json.encode group)

def showGroup (session : Session) (name : String) : Handling Response := do
  let group ← loadGroup session name
  return .json 200 (Json.encode group)

def GroupChange.apply (change : GroupChange) (now : Instant) (group : Group) : Group :=
  { group with
    templateId := change.templateId.getD group.templateId
    capacity := change.capacity.getD group.capacity
    updatedAt := now }

/-- Check the capacity of a change, if it has one. -/
def GroupChange.check (change : GroupChange) : Except Refusal Unit :=
  match change.capacity with
  | some capacity => checkCapacity capacity
  | none => .ok ()

def updateGroup (release : String) (moment : Moment) (session : Session) (name : String)
    (change : GroupChange) : Handling Response := do
  Handling.check change.check
  let existing ← loadGroup session name
  let group := change.apply moment.now existing
  Handling.ofAction (Orchestrator.update release session group)
  Handling.ask (.upsertGroup group)
  return .json 200 (Json.encode group)

def deleteGroup (release : String) (session : Session) (name : String) :
    Handling Response := do
  let group ← loadGroup session name
  Handling.ofAction (Orchestrator.delete release session group)
  Handling.ask (.deleteGroup session.accountId group.name)
  return .empty 204

end Http

end ServiceGroups
