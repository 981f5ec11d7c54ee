import ServiceGroups.Http.Groups

/-!
# Requests about templates

Templates are created, listed, shown and deleted; they are never changed.  Only
the store is involved.
-/

namespace ServiceGroups

namespace Http

def listTemplates (session : Session) (page : Page) : Handling Response := do
  let templates ← Handling.ask (.templates session.accountId page)
  return .json 200 (.array (templates.map Json.encode))

def TemplateDraft.template (draft : TemplateDraft) (moment : Moment) (session : Session) :
    Template where
  id := moment.freshId
  accountId := session.accountId
  name := Text.trim draft.name
  package := Text.trim draft.package
  imageId := Text.trim draft.imageId
  firewallEnabled := draft.firewallEnabled
  networks := draft.networks
  userData := Job.Details.nonEmpty? draft.userData
  tags := draft.tags
  metadata := draft.metadata
  createdAt := moment.now

def createTemplate (moment : Moment) (session : Session) (draft : TemplateDraft) :
    Handling Response := do
  Handling.check draft.check
  let template := draft.template moment session
  Handling.ask (.upsertTemplate template)
  return .json 201 (Json.encode template)

def showTemplate (session : Session) (id : Uuid) : Handling Response := do
  match ← Handling.ask (.template session.accountId id) with
  | some template => return .json 200 (Json.encode template)
  | none => Handling.fail (.notFound ("template " ++ id.text))

def deleteTemplate (session : Session) (id : Uuid) : Handling Response := do
  Handling.ask (.deleteTemplate session.accountId id)
  return .empty 204

end Http

end ServiceGroups
