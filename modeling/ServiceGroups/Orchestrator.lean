import ServiceGroups.Job.Rendering
import ServiceGroups.Program

/-!
# Driving the job scheduler

Creating, changing and deleting a group are fixed sequences of scheduler calls,
without retry and without rollback: the first call that fails ends the sequence
and is reported with the name of its step.  Before any call the template, the
account and the credential must be found.
-/

namespace ServiceGroups

namespace Orchestrator

/-- Look up the template of a group within the session's account. -/
def findTemplate (session : Session) (group : Group) : Action Failure Template := do
  let found ← askStore (.template session.accountId group.templateId)
  Action.require (.notFound ("template " ++ group.templateId.text)) found

/-- The name of a group's job: the group's name and the account's identity
inside the cloud. -/
def jobName (groupName : String) (cloudId : Uuid) : String :=
  groupName ++ "_" ++ cloudId.text

/-- Everything the job's text needs, once the account's rows are known. -/
def fillDetails (release : String) (session : Session) (template : Template) (group : Group)
    (account : Account) (credential : Credential) : Job.Details :=
  { Job.Details.ofTemplate template group with
    datacenter := session.datacenter
    release := release
    keyMaterial := credential.keyMaterial
    account := credential.accountName
    keyId := credential.keyId
    cloudUrl := session.cloudUrl
    jobName := jobName group.name account.cloudId }

def jobDetails (release : String) (session : Session) (template : Template) (group : Group) :
    Action Failure Job.Details := do
  let account ← askStore (.account session.accountId)
  let account ← Action.require (.notFound ("account " ++ session.accountId.text)) account
  let credential ← askStore (.credential account.id)
  let credential ← Action.require
    (.notFound ("triton credential for account " ++ account.id.text)) credential
  return fillDetails release session template group account credential

/-- Make one call of the scheduler as a named step of a sequence. -/
def step (name : String) (call : JobsCall) : Action Failure call.Reply :=
  (askJobs call).mapFailure (.orchestrator name)

/-- Render the job of a group and have the scheduler parse it. -/
def prepareJob (release : String) (session : Session) (template : Template) (group : Group) :
    Action Failure Job.Spec := do
  let details ← jobDetails release session template group
  step "parse nomad job" (.parse details.render)

/-- Validate and register a job, and run it once straight away. -/
def registerJob (job : Job.Spec) : Action Failure Unit := do
  step "validate nomad job" (.validate job)
  let _ ← step "register job with nomad" (.register job)
  let _ ← step "trigger a periodic instance of job" (.force job.id)

def deregisterJob (id : String) : Action Failure Unit := do
  let _ ← step "deregister job with nomad" (.deregister id true)

def submit (release : String) (session : Session) (group : Group) : Action Failure Unit := do
  let template ← findTemplate session group
  let job ← prepareJob release session template group
  registerJob job

/-- Replace a group's job by one for its present state; the old job goes first. -/
def update (release : String) (session : Session) (group : Group) : Action Failure Unit := do
  let template ← findTemplate session group
  let job ← prepareJob release session template group
  deregisterJob job.id
  registerJob job

/-- Scale a group to zero, let that run once, and remove its job. -/
def delete (release : String) (session : Session) (group : Group) : Action Failure Unit := do
  let template ← findTemplate session group
  let job ← prepareJob release session template { group with capacity := 0 }
  deregisterJob job.id
  registerJob job
  deregisterJob job.id

end Orchestrator

end ServiceGroups
