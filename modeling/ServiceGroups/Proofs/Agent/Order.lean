import Mathlib.Data.List.Induction
import ServiceGroups.Proofs.Agent.Move

/-!
# The order in which an agent starts and stops

Whatever happens, in whatever order, an agent holds exactly the pool that is open, a run works
on the pool that the agent holds, and a run that returns leaves its listener told to stop and
either drained or aborted.  Every move keeps that, and the order of starting and stopping is
read off it.
-/

namespace ServiceGroups

namespace Server

variable {server : Server}

/-- The listener was told to stop, and then it was drained or aborted. -/
def IsStopped (server : Server) : Prop :=
  server.isTold = true ∧ ((∃ succeeds, server.task = .ended succeeds) ∨ server.task = .aborted)

@[simp]
theorem pool_finish (succeeds : Bool) : (server.finish succeeds).pool = server.pool := by
  unfold finish
  split <;> rfl

@[simp]
theorem isTold_finish (succeeds : Bool) : (server.finish succeeds).isTold = server.isTold := by
  unfold finish
  split <;> rfl

theorem isStopped_abort (told : server.isTold = true) : server.abort.IsStopped := by
  unfold abort
  split
  · exact ⟨told, .inr rfl⟩
  · next notRunning =>
      refine ⟨told, ?_⟩
      cases task : server.task with
      | running => exact absurd task notRunning
      | ended succeeds => exact .inl ⟨succeeds, rfl⟩
      | aborted => exact .inr rfl

end Server

namespace AgentPhase

/-- The pool that a run has obtained so far. -/
def pool? : AgentPhase → Option Nat
  | building pool | binding pool => some pool
  | waiting server | draining server => some server.pool
  | _ => none

end AgentPhase

namespace Agent

variable {agent after : Agent} {happening : Happening}

/-- What is true of an agent at any time. -/
structure Sound (agent : Agent) : Prop where
  /-- The agent holds the pool that is open. -/
  open_iff : ∀ pool, agent.isOpen pool = true ↔ agent.held = some pool
  /-- A run works on the pool that the agent holds. -/
  uses : ∀ pool, agent.phase.pool? = some pool → agent.held = some pool
  told : ∀ server, agent.phase = .draining server → server.isTold = true
  released : agent.phase = .closing → agent.held = none
  /-- A run starts without a listener. -/
  fresh : agent.isRunning = true → agent.lastServer = none
  /-- A run leaves no listener that is not stopped. -/
  stopped : ∀ server, agent.lastServer = some server → server.IsStopped

theorem sound_new (hasPool : Bool) : (new hasPool).Sound where
  open_iff pool := by cases hasPool <;> cases pool <;> simp [new, isOpen]
  uses := by simp [new, AgentPhase.pool?]
  told := by simp [new]
  released := by simp [new]
  fresh := by simp [new, isRunning]
  stopped := by simp [new]

theorem pools_eq_replicate (closed : ∀ pool, agent.isOpen pool = false) :
    agent.pools = .replicate agent.pools.length false := by
  refine List.eq_replicate_iff.mpr ⟨rfl, fun isOpen member => ?_⟩
  obtain ⟨pool, inside, rfl⟩ := List.getElem_of_mem member
  have closedHere : agent.pools.getD pool false = false := closed pool
  rwa [List.getD_eq_getElem?_getD, List.getElem?_eq_getElem inside] at closedHere

namespace Sound

/-- Once the pool that the agent holds is closed, none is open. -/
theorem isOpen_closePool (sound : agent.Sound) (pool : Nat) :
    agent.closePool.isOpen pool = false := by
  rw [Bool.eq_false_iff]
  intro isOpen
  unfold closePool at isOpen
  split at isOpen
  · next held found =>
      obtain ⟨wasOpen, other⟩ := getD_set.mp isOpen
      have same : some held = some pool := found.symm.trans ((sound.open_iff pool).mp wasOpen)
      exact other (Option.some.inj same).symm
  · next empty =>
      have held : agent.held = some pool := (sound.open_iff pool).mp isOpen
      exact absurd (empty.symm.trans held) (by simp)

theorem pools_closePool (sound : agent.Sound) :
    agent.closePool.pools = .replicate agent.pools.length false := by
  rw [← length_pools_closePool]
  exact pools_eq_replicate sound.isOpen_closePool

/-- A run that goes on with what the agent holds. -/
theorem goOn (sound : agent.Sound) (running : agent.isRunning = true) {phase : AgentPhase}
    {token : AgentToken} (notClosing : phase ≠ .closing)
    (uses : ∀ pool, phase.pool? = some pool → agent.held = some pool)
    (told : ∀ server, phase = .draining server → server.isTold = true) :
    ({ agent with phase := phase, token := token } : Agent).Sound where
  open_iff := sound.open_iff
  uses := uses
  told := told
  released closing := absurd closing notClosing
  fresh _ := sound.fresh running
  stopped := sound.stopped

theorem connect (sound : agent.Sound) (running : agent.isRunning = true)
    (empty : agent.held = none) :
    ({ agent with
      phase := .building agent.pools.length
      pools := agent.pools ++ [true]
      held := some agent.pools.length } : Agent).Sound where
  open_iff pool := by
    have closed : ¬ agent.pools.getD pool false = true := by
      rw [← isOpen, sound.open_iff, empty]
      simp
    rw [isOpen, getD_concat, Option.some.injEq, eq_comm (a := pool)]
    exact or_iff_right closed
  uses := by simp [AgentPhase.pool?]
  told := by simp
  released := by simp
  fresh _ := sound.fresh running
  stopped := sound.stopped

/-- Between runs the agent's phase says nothing about a pool or a listener. -/
theorem rest (sound : agent.Sound) {phase : AgentPhase} {token : AgentToken}
    (idle : phase = .idle) (lastServer : Option Server) (lastRun : Option Bool)
    (stopped : ∀ server, lastServer = some server → server.IsStopped) :
    ({ agent with phase, token, lastServer, lastRun } : Agent).Sound where
  open_iff := sound.open_iff
  uses := by simp [idle, AgentPhase.pool?]
  told := by simp [idle]
  released := by simp [idle]
  fresh := by simp [idle, isRunning]
  stopped := stopped

theorem close (sound : agent.Sound) :
    ({ agent.closePool with phase := .closing } : Agent).Sound where
  open_iff pool := by
    have closed : agent.closePool.isOpen pool = false := sound.isOpen_closePool pool
    rw [isOpen] at closed ⊢
    rw [closed, held_closePool]
    simp
  uses := by simp [AgentPhase.pool?]
  told := by simp
  released _ := held_closePool
  fresh := by simp [isRunning]
  stopped server found := sound.stopped server (lastServer_closePool.symm.trans found)

theorem move (sound : agent.Sound) (move : agent.Move happening after) : after.Sound := by
  cases move with
  | rests => exact sound
  | begins parent idle =>
      exact
        { sound with
          uses := by simp [AgentPhase.pool?]
          told := by simp
          released := by simp
          fresh := by simp
          stopped := by simp }
  | fails starting => exact sound.rest rfl _ _ sound.stopped
  | installs installing =>
      exact sound.goOn (by rw [isRunning, installing]) (by simp) (by simp [AgentPhase.pool?])
        (by simp)
  | keepsPool succeeds pool connecting held =>
      exact sound.goOn (by rw [isRunning, connecting]) (by simp)
        (by simp [AgentPhase.pool?, held]) (by simp)
  | connects connecting empty => exact sound.connect (by rw [isRunning, connecting]) empty
  | builds pool building =>
      exact sound.goOn (by rw [isRunning, building]) (by simp)
        (fun _ found => sound.uses _ (by rw [building]; exact found)) (by simp)
  | starts pool binding =>
      exact sound.goOn (by rw [isRunning, binding]) (by simp)
        (fun _ found => sound.uses _ (by rw [binding]; exact found)) (by simp)
  | tells succeeds server waiting isCancelled =>
      exact sound.goOn (by rw [isRunning, waiting]) (by simp)
        (fun _ found => sound.uses _ (by rw [waiting]; exact found)) (by simp [Server.tell])
  | returns succeeds server draining =>
      have told : server.isTold = true := sound.told server draining
      exact sound.rest rfl _ _ fun _ found =>
        Option.some.inj found ▸ Server.isStopped_abort told
  | serves succeeds server waiting =>
      have held : agent.held = some server.pool := sound.uses _ (by rw [waiting]; rfl)
      exact sound.goOn (by rw [isRunning, waiting]) (by simp) (by simp [AgentPhase.pool?, held])
        (by simp)
  | drains succeeds server draining =>
      have held : agent.held = some server.pool := sound.uses _ (by rw [draining]; rfl)
      have told : server.isTold = true := sound.told server draining
      exact sound.goOn (by rw [isRunning, draining]) (by simp) (by simp [AgentPhase.pool?, held])
        (by simp [told])
  | cancels token => exact { sound with }
  | signals listens => exact { sound with }
  | closes idle => exact sound.close
  | stops succeeds closing => exact sound.rest rfl _ _ sound.stopped

theorem follow (sound : agent.Sound) (happenings : List Happening) :
    (agent.follow happenings).Sound := by
  induction happenings generalizing agent with
  | nil => exact sound
  | cons happening rest ih => exact ih (sound.move (agent.move_step happening))

end Sound

/-- How a finished stop leaves an agent. -/
structure HasStopped (agent after : Agent) : Prop where
  idle : after.phase = .idle
  released : after.held = none
  /-- Every pool that the agent was given or has connected is closed. -/
  closed : after.pools = .replicate agent.pools.length false
  /-- The token that is cancelled is the one that the agent had. -/
  sameToken : after.token.above = agent.token.above
  isCancelled : after.token.isCancelled = true

/-- The order that an agent keeps with its next happening. -/
structure InOrder (agent : Agent) (happening : Happening) : Prop where
  /-- A listener is started on a pool that the agent holds and that is open. -/
  starts : ∀ server, (agent.step happening).phase = .waiting server →
    (∀ earlier, agent.phase ≠ .waiting earlier) →
      agent.held = some server.pool ∧ agent.isOpen server.pool = true
  /-- That is so for as long as the run has not returned. -/
  serves : agent.isRunning = true → ∀ server, agent.server = some server →
    agent.held = some server.pool ∧ agent.isOpen server.pool = true
  /-- A run returns without having started a listener, or with its listener stopped. -/
  returns : agent.isRunning = true → (agent.step happening).isRunning = false →
    agent.server = none ∧ (agent.step happening).server = none ∨
      ∃ server, agent.server = some server ∧
        (agent.step happening).server = some server.abort ∧ server.abort.IsStopped
  /-- The listener of a run that has returned is stopped for good. -/
  leaves : agent.isRunning = false → ∀ server, agent.server = some server → server.IsStopped
  /-- An open pool is closed by nothing but a stop between runs. -/
  closes : ∀ pool, agent.isOpen pool = true → (agent.step happening).isOpen pool = false →
    agent.phase = .idle ∧ happening = .stopped
  /-- A stop begins by closing the pool that is held. -/
  releases : agent.phase = .idle → happening = .stopped →
    (agent.step happening).phase = .closing ∧ (agent.step happening).held = none ∧
      (agent.step happening).pools = .replicate agent.pools.length false
  /-- A stop that has begun is not broken off before it is finished. -/
  stops : agent.phase = .closing →
    (∃ succeeds, happening = .stepEnds succeeds) ∧ agent.HasStopped (agent.step happening) ∨
      (∀ succeeds, happening ≠ .stepEnds succeeds) ∧ (agent.step happening).phase = .closing
  /-- The tokens of callers are cancelled by the callers alone. -/
  parents : ∀ token, token ∈ (agent.step happening).cancelled ↔
    token ∈ agent.cancelled ∨ happening = .cancelled token

theorem mem_cancelled_step (agent : Agent) (happening : Happening) (token : Nat) :
    token ∈ (agent.step happening).cancelled ↔
      token ∈ agent.cancelled ∨ happening = .cancelled token := by
  cases happening with
  | cancelled other => simp [step, cancel, or_comm, eq_comm]
  | _ =>
      rw [(agent.move_step _).cancelled_eq (by simp)]
      simp

namespace Sound

theorem step_of_closing (sound : agent.Sound) (closing : agent.phase = .closing) :
    (∃ succeeds, happening = .stepEnds succeeds) ∧ agent.HasStopped (agent.step happening) ∨
      (∀ succeeds, happening ≠ .stepEnds succeeds) ∧ (agent.step happening).phase = .closing := by
  cases happening with
  | stepEnds succeeds =>
      have ended : agent.step (.stepEnds succeeds) =
          { agent with phase := .idle, token := { agent.token with isCancelled := true } } := by
        rw [step, endStep, closing]
      have empty : agent.held = none := sound.released closing
      have closed (pool : Nat) : agent.isOpen pool = false := by
        rw [Bool.eq_false_iff, ne_eq, sound.open_iff, empty]
        simp
      rw [ended]
      exact .inl ⟨⟨succeeds, rfl⟩, ⟨rfl, empty, pools_eq_replicate closed, rfl, rfl⟩⟩
  | signalled =>
      refine .inr ⟨by simp, ?_⟩
      rw [step, signal]
      split <;> exact closing
  | _ => exact .inr ⟨by simp, by simp [step, beginRun, endServer, cancel, beginStop, closing]⟩

theorem serves (sound : agent.Sound) (running : agent.isRunning = true) {server : Server}
    (started : agent.server = some server) :
    agent.held = some server.pool ∧ agent.isOpen server.pool = true := by
  have inPhase : agent.phase.pool? = some server.pool := by
    unfold Agent.server at started
    split at started
    · next phase => cases started; rw [phase]; rfl
    · next phase => cases started; rw [phase]; rfl
    · exact absurd ((sound.fresh running).symm.trans started) (by simp)
  have held : agent.held = some server.pool := sound.uses _ inPhase
  exact ⟨held, (sound.open_iff _).mpr held⟩

theorem returns (sound : agent.Sound) (move : agent.Move happening after)
    (running : agent.isRunning = true) (returned : after.isRunning = false) :
    agent.server = none ∧ after.server = none ∨
      ∃ server, agent.server = some server ∧ after.server = some server.abort ∧
        server.abort.IsStopped := by
  rcases move.eq_of_returns running returned with ⟨starting, rfl⟩ | ⟨server, draining, rfl⟩
  · have none : agent.lastServer = none := sound.fresh running
    refine .inl ⟨?_, none⟩
    unfold Agent.server
    split
    · next phase => simp [phase, AgentPhase.isStarting] at starting
    · next phase => simp [phase, AgentPhase.isStarting] at starting
    · exact none
  · have told : server.isTold = true := sound.told server draining
    refine .inr ⟨server, ?_, rfl, Server.isStopped_abort told⟩
    rw [Agent.server, draining]

theorem leaves (sound : agent.Sound) (between : agent.isRunning = false) {server : Server}
    (left : agent.server = some server) : server.IsStopped := by
  refine sound.stopped server ?_
  unfold Agent.server at left
  split at left
  · next phase => simp [isRunning, phase] at between
  · next phase => simp [isRunning, phase] at between
  · exact left

theorem inOrder (sound : agent.Sound) (happening : Happening) : agent.InOrder happening where
  starts server waiting new := by
    have binding : agent.phase = .binding server.pool :=
      (agent.move_step happening).binding_of_waiting waiting new
    have held : agent.held = some server.pool := sound.uses _ (by rw [binding]; rfl)
    exact ⟨held, (sound.open_iff _).mpr held⟩
  serves running _ started := sound.serves running started
  returns running returned := sound.returns (agent.move_step happening) running returned
  leaves between _ left := sound.leaves between left
  closes _ isOpen closed := (agent.move_step happening).idle_of_closed isOpen closed
  releases idle happened := by
    subst happened
    have begun : agent.step .stopped = { agent.closePool with phase := .closing } := by
      rw [step, beginStop, idle]
    rw [begun]
    exact ⟨rfl, held_closePool, sound.pools_closePool⟩
  stops closing := sound.step_of_closing closing
  parents := agent.mem_cancelled_step happening

end Sound

/-- The agent was given the pool, or one of its runs has connected it. -/
def Obtains (hasPool : Bool) (past : List Happening) (pool : Nat) : Prop :=
  hasPool = true ∧ pool = 0 ∨
    ∃ before rest, past = before ++ .stepEnds true :: rest ∧
      ((new hasPool).follow before).phase = .connecting ∧
        ((new hasPool).follow before).held = none ∧
          pool = ((new hasPool).follow before).pools.length

theorem follow_concat (agent : Agent) (past : List Happening) (next : Happening) :
    agent.follow (past ++ [next]) = (agent.follow past).step next :=
  List.foldl_append

theorem obtains_of_lt {hasPool : Bool} {past : List Happening} {pool : Nat}
    (inside : pool < ((new hasPool).follow past).pools.length) : Obtains hasPool past pool := by
  induction past using List.reverseRecOn with
  | nil => cases hasPool <;> simp_all [follow, new, Obtains]
  | append_singleton past next ih =>
      rw [follow_concat] at inside
      by_cases old : pool < ((new hasPool).follow past).pools.length
      · rcases ih old with given | ⟨before, rest, rfl, obtained⟩
        · exact .inl given
        · exact .inr ⟨before, rest ++ [next], by simp, obtained⟩
      · obtain ⟨rfl, connecting⟩ := (move_step _ next).connecting_of_new inside old
        exact .inr ⟨past, [], rfl, connecting⟩

/-- Whatever has happened to an agent, it keeps its order with whatever happens next, and it
has no pool but the one that it was given and those that its runs have connected. -/
theorem starts_and_stops_in_order (hasPool : Bool) (past : List Happening) (next : Happening) :
    ((new hasPool).follow past).InOrder next ∧
      ∀ pool, ((new hasPool).follow past).isOpen pool = true → Obtains hasPool past pool := by
  refine ⟨((sound_new hasPool).follow past).inOrder next, fun pool isOpen => ?_⟩
  refine obtains_of_lt (Nat.lt_of_not_le fun outside => ?_)
  rw [Agent.isOpen, List.getD_eq_getElem?_getD, List.getElem?_eq_none outside] at isOpen
  cases isOpen

/-- A run that finds its address taken, and the next one up to its listener. -/
def runAfterTakenAddress : List Happening :=
  [.runBegins 0, .stepEnds true, .stepEnds true, .stepEnds true, .stepEnds false,
    .runBegins 1, .stepEnds true, .stepEnds false, .stepEnds true]

theorem pool_of_failed_run_serves_next :
    ((new false).follow (runAfterTakenAddress ++ [.stepEnds true])).phase = .waiting (.start 0) ∧
      ((new false).follow runAfterTakenAddress).held = some 0 ∧
        Obtains false runAfterTakenAddress 0 := by
  obtain ⟨inOrder, obtained⟩ :=
    starts_and_stops_in_order false runAfterTakenAddress (.stepEnds true)
  have binding : ((new false).follow runAfterTakenAddress).phase = .binding 0 := by decide
  have waiting : (((new false).follow runAfterTakenAddress).step (.stepEnds true)).phase =
      .waiting (.start 0) := by decide
  have started : ((new false).follow runAfterTakenAddress).held = some 0 ∧
      ((new false).follow runAfterTakenAddress).isOpen 0 = true :=
    inOrder.starts (.start 0) waiting (by simp [binding])
  refine ⟨?_, started.1, obtained 0 started.2⟩
  rw [follow_concat]
  exact waiting

/-- A run in which every step succeeds and that a signal ends. -/
def smoothRun : List Happening :=
  [.runBegins 0, .stepEnds true, .stepEnds true, .stepEnds true, .stepEnds true, .signalled,
    .stepEnds true, .serverEnds true, .stepEnds true]

example : ((new true).follow smoothRun).lastRun = some true := by decide

/-- A run that ends because no pool can be obtained. -/
def runWithoutDatabase : List Happening :=
  [.runBegins 0, .stepEnds true, .stepEnds false]

example : ((new false).follow runWithoutDatabase).lastRun = some false := by decide

end Agent

end ServiceGroups
