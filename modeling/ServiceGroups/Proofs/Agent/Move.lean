import Mathlib.Tactic.SplitIfs
import ServiceGroups.Agent

/-!
# What can happen to an agent

A happening moves an agent in one of a few ways, or it changes nothing.  Saying so once spares
every later argument the way through the phases: a listener is started only by a run that has
bound its address, a run returns only before it has a listener or when its listener is drained,
and a pool comes from connecting and goes with a stop between runs.
-/

namespace ServiceGroups

namespace AgentPhase

/-- A run is on its way to its listener. -/
def isStarting : AgentPhase → Bool
  | installing | connecting | building _ | binding _ => true
  | _ => false

end AgentPhase

namespace Agent

variable {agent after : Agent} {happening : Happening}

/-- A pool that is connected is open, as are those that were. -/
theorem getD_concat {pools : List Bool} {pool : Nat} :
    (pools ++ [true]).getD pool false = true ↔
      pools.getD pool false = true ∨ pool = pools.length := by
  simp only [List.getD_eq_getElem?_getD]
  rcases Nat.lt_trichotomy pool pools.length with inside | rfl | outside
  · simp [List.getElem?_append_left inside, Nat.ne_of_lt inside]
  · simp
  · rw [List.getElem?_eq_none (by simp; omega), List.getElem?_eq_none (by omega)]
    simp [Nat.ne_of_gt outside]

/-- Closing a pool leaves the others as they are. -/
theorem getD_set {pools : List Bool} {pool other : Nat} :
    (pools.set other false).getD pool false = true ↔
      pools.getD pool false = true ∧ pool ≠ other := by
  simp only [List.getD_eq_getElem?_getD, List.getElem?_set]
  split_ifs with same inside
  · simp [same]
  · simp [same]
  · simp [Ne.symm same]

@[simp]
theorem held_closePool : agent.closePool.held = none := by
  unfold closePool
  split
  · rfl
  · next empty => exact empty

@[simp]
theorem lastServer_closePool : agent.closePool.lastServer = agent.lastServer := by
  unfold closePool
  split <;> rfl

@[simp]
theorem cancelled_closePool : agent.closePool.cancelled = agent.cancelled := by
  unfold closePool
  split <;> rfl

@[simp]
theorem length_pools_closePool : agent.closePool.pools.length = agent.pools.length := by
  unfold closePool
  split
  · exact List.length_set
  · rfl

/-- What a happening can do to an agent. -/
inductive Move (agent : Agent) : Happening → Agent → Prop where
  | rests (happening : Happening) : Move agent happening agent
  | begins (parent : Nat) (idle : agent.phase = .idle) :
      Move agent (.runBegins parent)
        { agent with
          phase := .installing
          token := ⟨some parent, false, false⟩
          lastServer := none
          lastRun := none }
  | fails (starting : agent.phase.isStarting = true) :
      Move agent (.stepEnds false) (agent.endRun false)
  | installs (installing : agent.phase = .installing) :
      Move agent (.stepEnds true)
        { agent with phase := .connecting, token := { agent.token with listens := true } }
  | keepsPool (succeeds : Bool) (pool : Nat) (connecting : agent.phase = .connecting)
      (held : agent.held = some pool) :
      Move agent (.stepEnds succeeds) { agent with phase := .building pool }
  | connects (connecting : agent.phase = .connecting) (empty : agent.held = none) :
      Move agent (.stepEnds true)
        { agent with
          phase := .building agent.pools.length
          pools := agent.pools ++ [true]
          held := some agent.pools.length }
  | builds (pool : Nat) (building : agent.phase = .building pool) :
      Move agent (.stepEnds true) { agent with phase := .binding pool }
  | starts (pool : Nat) (binding : agent.phase = .binding pool) :
      Move agent (.stepEnds true) { agent with phase := .waiting (.start pool) }
  | tells (succeeds : Bool) (server : Server) (waiting : agent.phase = .waiting server)
      (isCancelled : agent.isCancelled = true) :
      Move agent (.stepEnds succeeds) { agent with phase := .draining server.tell }
  | returns (succeeds : Bool) (server : Server) (draining : agent.phase = .draining server) :
      Move agent (.stepEnds succeeds) (agent.endDrain server)
  | serves (succeeds : Bool) (server : Server) (waiting : agent.phase = .waiting server) :
      Move agent (.serverEnds succeeds) { agent with phase := .waiting (server.finish succeeds) }
  | drains (succeeds : Bool) (server : Server) (draining : agent.phase = .draining server) :
      Move agent (.serverEnds succeeds) { agent with phase := .draining (server.finish succeeds) }
  | cancels (token : Nat) : Move agent (.cancelled token) (agent.cancel token)
  | signals (listens : agent.token.listens = true) :
      Move agent .signalled
        { agent with token := { agent.token with isCancelled := true, listens := false } }
  | closes (idle : agent.phase = .idle) :
      Move agent .stopped { agent.closePool with phase := .closing }
  | stops (succeeds : Bool) (closing : agent.phase = .closing) :
      Move agent (.stepEnds succeeds)
        { agent with phase := .idle, token := { agent.token with isCancelled := true } }

theorem move_obtainPool (connecting : agent.phase = .connecting) (succeeds : Bool) :
    agent.Move (.stepEnds succeeds) (agent.obtainPool succeeds) := by
  unfold obtainPool
  split
  · next pool held => exact .keepsPool succeeds pool connecting held
  · next empty =>
      cases succeeds with
      | true => exact .connects connecting empty
      | false => exact .fails (by rw [connecting]; rfl)

theorem move_endStep (agent : Agent) (succeeds : Bool) :
    agent.Move (.stepEnds succeeds) (agent.endStep succeeds) := by
  unfold endStep
  split
  · exact .rests _
  · next phase =>
      cases succeeds with
      | true => exact .installs phase
      | false => exact .fails (by rw [phase]; rfl)
  · next phase => exact move_obtainPool phase succeeds
  · next pool phase =>
      cases succeeds with
      | true => exact .builds pool phase
      | false => exact .fails (by rw [phase]; rfl)
  · next pool phase =>
      cases succeeds with
      | true => exact .starts pool phase
      | false => exact .fails (by rw [phase]; rfl)
  · next server phase =>
      split
      · next isCancelled => exact .tells succeeds server phase isCancelled
      · exact .rests _
  · next server phase => exact .returns succeeds server phase
  · next phase => exact .stops succeeds phase

/-- There is nothing else that a happening can do. -/
theorem move_step (agent : Agent) (happening : Happening) :
    agent.Move happening (agent.step happening) := by
  cases happening with
  | runBegins parent =>
      simp only [step, beginRun]
      split
      · next idle => exact .begins parent idle
      · exact .rests _
  | stepEnds succeeds => exact move_endStep agent succeeds
  | serverEnds succeeds =>
      simp only [step, endServer]
      split
      · next server waiting => exact .serves succeeds server waiting
      · next server draining => exact .drains succeeds server draining
      · exact .rests _
  | cancelled token => exact .cancels token
  | signalled =>
      simp only [step, signal]
      split
      · next listens => exact .signals listens
      · exact .rests _
  | stopped =>
      simp only [step, beginStop]
      split
      · next idle => exact .closes idle
      · exact .rests _

namespace Move

theorem binding_of_waiting (move : agent.Move happening after) {server : Server}
    (waiting : after.phase = .waiting server) (new : ∀ earlier, agent.phase ≠ .waiting earlier) :
    agent.phase = .binding server.pool := by
  cases move with
  | starts pool binding =>
      cases waiting
      exact binding
  | serves succeeds earlier before => exact absurd before (new earlier)
  | rests => exact absurd waiting (new server)
  | cancels token => exact absurd waiting (new server)
  | signals listens => exact absurd waiting (new server)
  | _ => cases waiting

/-- A run returns before it has a listener, or when its listener is drained. -/
theorem eq_of_returns (move : agent.Move happening after) (running : agent.isRunning = true)
    (returned : after.isRunning = false) :
    agent.phase.isStarting = true ∧ after = agent.endRun false ∨
      ∃ server, agent.phase = .draining server ∧ after = agent.endDrain server := by
  cases move with
  | fails starting => exact .inl ⟨starting, rfl⟩
  | returns succeeds server draining => exact .inr ⟨server, draining, rfl⟩
  | rests => exact absurd (running.symm.trans returned) (by decide)
  | cancels token => exact absurd (running.symm.trans returned) (by decide)
  | signals listens => exact absurd (running.symm.trans returned) (by decide)
  | closes idle => simp [isRunning, idle] at running
  | stops succeeds closing => simp [isRunning, closing] at running
  | _ => simp [isRunning] at returned

theorem idle_of_closed (move : agent.Move happening after) {pool : Nat}
    (isOpen : agent.isOpen pool = true) (closed : after.isOpen pool = false) :
    agent.phase = .idle ∧ happening = .stopped := by
  cases move with
  | closes idle => exact ⟨idle, rfl⟩
  | connects connecting empty =>
      have still : (agent.pools ++ [true]).getD pool false = true := getD_concat.mpr (.inl isOpen)
      exact absurd (still.symm.trans closed) (by decide)
  | _ => exact absurd (isOpen.symm.trans closed) (by decide)

/-- A pool that is new has just been connected. -/
theorem connecting_of_new (move : agent.Move happening after) {pool : Nat}
    (inside : pool < after.pools.length) (new : ¬ pool < agent.pools.length) :
    happening = .stepEnds true ∧ agent.phase = .connecting ∧ agent.held = none ∧
      pool = agent.pools.length := by
  cases move with
  | connects connecting empty =>
      rw [List.length_append, List.length_singleton] at inside
      exact ⟨rfl, connecting, empty, by omega⟩
  | closes idle => exact absurd (by simpa using inside) new
  | _ => exact absurd inside new

theorem cancelled_eq (move : agent.Move happening after)
    (other : ∀ token, happening ≠ .cancelled token) : after.cancelled = agent.cancelled := by
  cases move with
  | cancels token => exact absurd rfl (other token)
  | closes idle => exact cancelled_closePool
  | _ => rfl

end Move

end Agent

end ServiceGroups
