/-!
# The agent from start to stop

A run of the agent makes a token below that of its caller, installs the signal handler, obtains
a connection pool, builds the client and the orchestrator, starts the listener, waits until its
token is cancelled, and then tells the listener to stop and drains it; the first step that fails
ends the run.  Stopping closes the pool and then cancels the agent's token.  The agent is a
machine that takes one happening at a time; a happening that does not fit what the agent is
doing changes nothing, so any sequence of happenings describes some course of events.
-/

namespace ServiceGroups

/-- The task that serves requests. -/
inductive ServingTask where
  | running
  /-- It has come to its end by itself, well or badly. -/
  | ended (succeeds : Bool)
  | aborted
deriving DecidableEq, Repr

/-- A listener that was started. -/
structure Server where
  /-- The number of the pool that its requests use. -/
  pool : Nat
  /-- Has it been told to stop? -/
  isTold : Bool
  task : ServingTask
deriving DecidableEq, Repr

namespace Server

def start (pool : Nat) : Server :=
  ⟨pool, false, .running⟩

/-- Tell the listener to take no more connections and to finish the requests under way. -/
def tell (server : Server) : Server :=
  { server with isTold := true }

/-- The task comes to its end by itself. -/
def finish (server : Server) (succeeds : Bool) : Server :=
  match server.task with
  | .running => { server with task := .ended succeeds }
  | _ => server

/-- The time for draining is over: a task that still runs is aborted. -/
def abort (server : Server) : Server :=
  match server.task with
  | .running => { server with task := .aborted }
  | _ => server

/-- Does draining the listener succeed?  Having to abort it is no failure. -/
def drainsWell (server : Server) : Bool :=
  server.task != .ended false

end Server

/-- What an agent is doing, with what its run has obtained so far. -/
inductive AgentPhase where
  | idle
  | installing
  | connecting
  | building (pool : Nat)
  | binding (pool : Nat)
  | waiting (server : Server)
  | draining (server : Server)
  /-- The agent is being stopped. -/
  | closing
deriving DecidableEq, Repr

/-- The agent's own cancellation token. -/
structure AgentToken where
  /-- The number of the caller's token that it hangs below. -/
  above : Option Nat
  /-- Was it cancelled itself? -/
  isCancelled : Bool
  /-- Does a signal to end cancel it? -/
  listens : Bool
deriving DecidableEq, Repr

/-- What can happen to an agent. -/
inductive Happening where
  /-- A run is begun below a token of the caller. -/
  | runBegins (parent : Nat)
  /-- What the agent is doing comes to its end, well or badly. -/
  | stepEnds (succeeds : Bool)
  /-- The task that serves requests comes to its end by itself. -/
  | serverEnds (succeeds : Bool)
  /-- A token of the caller is cancelled. -/
  | cancelled (token : Nat)
  /-- The process receives a signal to end. -/
  | signalled
  /-- The agent is to be stopped. -/
  | stopped
deriving DecidableEq, Repr

/-- An agent between two happenings. -/
structure Agent where
  phase : AgentPhase
  /-- The pools that the agent was given or has connected, in this order: is each one open? -/
  pools : List Bool
  /-- The number of the pool that the agent holds. -/
  held : Option Nat
  token : AgentToken
  /-- The tokens of the caller that are cancelled. -/
  cancelled : List Nat
  /-- The listener of the latest run, once that run has returned. -/
  lastServer : Option Server
  /-- Did the latest run succeed? -/
  lastRun : Option Bool
deriving DecidableEq, Repr

/-- What has become of an agent's latest pool. -/
inductive PoolState where
  | absent
  | held
  | closed
deriving DecidableEq, Repr

namespace Agent

/-- A new agent, with a pool it was given or without one. -/
def new (hasPool : Bool) : Agent where
  phase := .idle
  pools := if hasPool then [true] else []
  held := if hasPool then some 0 else none
  token := ⟨none, false, false⟩
  cancelled := []
  lastServer := none
  lastRun := none

def pool (agent : Agent) : PoolState :=
  if agent.held.isSome then .held else if agent.pools.isEmpty then .absent else .closed

def isOpen (agent : Agent) (pool : Nat) : Bool :=
  agent.pools.getD pool false

/-- Is the token above the agent's own one cancelled? -/
def isParentCancelled (agent : Agent) : Bool :=
  agent.token.above.any agent.cancelled.contains

/-- A token counts as cancelled when the one above it is. -/
def isCancelled (agent : Agent) : Bool :=
  agent.token.isCancelled || agent.isParentCancelled

/-- Is a run under way? -/
def isRunning (agent : Agent) : Bool :=
  match agent.phase with
  | .idle | .closing => false
  | _ => true

/-- The listener of the run that is under way, or else of the latest one. -/
def server (agent : Agent) : Option Server :=
  match agent.phase with
  | .waiting server | .draining server => some server
  | _ => agent.lastServer

/-- Begin a run: the agent's own token is now a fresh one below that of the caller. -/
def beginRun (agent : Agent) (parent : Nat) : Agent :=
  match agent.phase with
  | .idle =>
    { agent with
      phase := .installing
      token := ⟨some parent, false, false⟩
      lastServer := none
      lastRun := none }
  | _ => agent

def endRun (agent : Agent) (succeeds : Bool) : Agent :=
  { agent with phase := .idle, lastRun := some succeeds }

/-- Go on with the pool that the agent holds, or with the one that it connects. -/
def obtainPool (agent : Agent) (succeeds : Bool) : Agent :=
  match agent.held with
  | some pool => { agent with phase := .building pool }
  | none =>
    if succeeds then
      { agent with
        phase := .building agent.pools.length
        pools := agent.pools ++ [true]
        held := some agent.pools.length }
    else agent.endRun false

/-- The listener is drained or its time is over, and with that the run returns. -/
def endDrain (agent : Agent) (server : Server) : Agent :=
  { agent with lastServer := some server.abort }.endRun server.drainsWell

def endStep (agent : Agent) (succeeds : Bool) : Agent :=
  match agent.phase with
  | .idle => agent
  | .installing =>
    if succeeds then
      { agent with phase := .connecting, token := { agent.token with listens := true } }
    else agent.endRun false
  | .connecting => agent.obtainPool succeeds
  | .building pool =>
    if succeeds then { agent with phase := .binding pool } else agent.endRun false
  | .binding pool =>
    if succeeds then { agent with phase := .waiting (.start pool) } else agent.endRun false
  | .waiting server =>
    if agent.isCancelled then { agent with phase := .draining server.tell } else agent
  | .draining server => agent.endDrain server
  | .closing => { agent with phase := .idle, token := { agent.token with isCancelled := true } }

def endServer (agent : Agent) (succeeds : Bool) : Agent :=
  match agent.phase with
  | .waiting server => { agent with phase := .waiting (server.finish succeeds) }
  | .draining server => { agent with phase := .draining (server.finish succeeds) }
  | _ => agent

/-- A token of the caller is cancelled, and with it every token below. -/
def cancel (agent : Agent) (token : Nat) : Agent :=
  { agent with cancelled := token :: agent.cancelled }

/-- A signal cancels the agent's own token and no other. -/
def signal (agent : Agent) : Agent :=
  if agent.token.listens then
    { agent with token := { agent.token with isCancelled := true, listens := false } }
  else agent

/-- Close the pool that the agent holds, and hold it no longer. -/
def closePool (agent : Agent) : Agent :=
  match agent.held with
  | some pool => { agent with pools := agent.pools.set pool false, held := none }
  | none => agent

/-- Stopping begins between runs: the pool is closed first. -/
def beginStop (agent : Agent) : Agent :=
  match agent.phase with
  | .idle => { agent.closePool with phase := .closing }
  | _ => agent

def step (agent : Agent) : Happening → Agent
  | .runBegins parent => agent.beginRun parent
  | .stepEnds succeeds => agent.endStep succeeds
  | .serverEnds succeeds => agent.endServer succeeds
  | .cancelled token => agent.cancel token
  | .signalled => agent.signal
  | .stopped => agent.beginStop

def follow (agent : Agent) (happenings : List Happening) : Agent :=
  happenings.foldl step agent

end Agent

end ServiceGroups
