import ServiceGroups.CommandLine
import ServiceGroups.Proofs.Except

/-!
# Words of the command line

An option that stands alone awaits its value, which is the next word or none.  The words that run
the agent with both options are read as what they say, unless one of the values looks like an
option itself or is no address to listen on.
-/

namespace ServiceGroups

namespace CommandLine

/-- The words that run the agent with both options. -/
def agentWords (listen scheduler : String) : List String :=
  ["agent", "--http-addr", listen, "--nomad-addr", scheduler]

/-- An option whose value is awaited takes the next word, or goes on waiting behind two dashes. -/
theorem eq_of_step_awaiting {name : CommandName} {settled : List (OptionName × String)}
    {option : OptionName} {word : String} {next : Progress}
    (stepped : Progress.step name ⟨settled, some (option, none), false⟩ word = .ok next) :
    Word.ofText word = .plain ∧ next = ⟨settled, some (option, some word), false⟩ ∨
      next = ⟨settled, some (option, none), true⟩ := by
  simp only [Progress.step, Bool.false_eq_true, if_false] at stepped
  split at stepped
  · cases stepped
    exact .inr rfl
  · next text attached _ =>
      unfold Progress.long at stepped
      split at stepped
      · cases attached <;> cases stepped
      · split at stepped <;> cases stepped
  · next letter _ => split at stepped <;> cases stepped
  · next plain =>
      cases stepped
      exact .inl ⟨plain, rfl⟩

theorem step_plain {name : CommandName} {settled : List (OptionName × String)}
    {option : OptionName} {word : String} (plain : Word.ofText word = .plain) :
    Progress.step name ⟨settled, some (option, none), false⟩ word =
      .ok ⟨settled, some (option, some word), false⟩ := by
  simp [Progress.step, plain]

theorem step_httpAddr : Progress.step .agent Progress.start "--http-addr" =
    .ok ⟨[], some (.httpAddr, none), false⟩ := by
  have long : Word.ofText "--http-addr" = .long "http-addr" none := by decide +kernel
  simp [Progress.step, Progress.start, long, Progress.long, CommandName.option?,
    Progress.settlePending, bind, Except.bind]

/-- The next option settles the address to listen on. -/
theorem step_nomadAddr (listen : String) :
    Progress.step .agent ⟨[], some (.httpAddr, some listen), false⟩ "--nomad-addr" =
      if (SocketAddress.read? listen).isSome then
        .ok ⟨[(.httpAddr, listen)], some (.nomadAddr, none), false⟩
      else .error .valueValidation := by
  have long : Word.ofText "--nomad-addr" = .long "nomad-addr" none := by decide +kernel
  cases read : SocketAddress.read? listen <;>
    simp [Progress.step, long, Progress.long, CommandName.option?, Progress.settlePending,
      Progress.settle, read, bind, Except.bind]

/-- The address of the scheduler is settled last. -/
theorem settlePending_nomadAddr (listen scheduler : String) :
    Progress.settlePending
        ⟨[(.httpAddr, listen)], some (.nomadAddr, some scheduler), false⟩ =
      .ok ⟨[(.httpAddr, listen), (.nomadAddr, scheduler)], none, false⟩ :=
  rfl

theorem command_agent {listen scheduler : String} {address : SocketAddress}
    (read : SocketAddress.read? listen = some address) :
    CommandName.agent.command [(.httpAddr, listen), (.nomadAddr, scheduler)] =
      .agent (some address) (some scheduler) := by
  have second : [(OptionName.httpAddr, listen), (.nomadAddr, scheduler)].lookup .nomadAddr =
      some scheduler := rfl
  rw [CommandName.command, second]
  simp [read]

/-- When the words are read, and as what. -/
theorem read_agentWords {listen scheduler : String} {command : Option Command} :
    CommandLine.read (agentWords listen scheduler) = .ok command ↔
      Word.ofText listen = .plain ∧ Word.ofText scheduler = .plain ∧
        ∃ address, SocketAddress.read? listen = some address ∧
          command = some (.agent (some address) (some scheduler)) := by
  have whole : CommandLine.read (agentWords listen scheduler) =
      (readCommand .agent ["--http-addr", listen, "--nomad-addr", scheduler]).map some := rfl
  rw [whole]
  constructor
  · intro named
    obtain ⟨agent, accepted, rfl⟩ := exists_of_map_eq_ok named
    obtain ⟨progress, stepped, accepted⟩ := exists_of_bind_eq_ok accepted
    obtain ⟨final, closed, accepted⟩ := exists_of_bind_eq_ok accepted
    cases accepted
    simp only [List.foldlM_cons, List.foldlM_nil, step_httpAddr] at stepped
    obtain ⟨_, first, stepped⟩ := exists_of_bind_eq_ok stepped
    cases first
    obtain ⟨second, listens, stepped⟩ := exists_of_bind_eq_ok stepped
    obtain ⟨third, named, stepped⟩ := exists_of_bind_eq_ok stepped
    obtain ⟨fourth, schedules, same⟩ := exists_of_bind_eq_ok stepped
    cases same
    rcases eq_of_step_awaiting listens with ⟨plain, rfl⟩ | rfl
    · rw [step_nomadAddr] at named
      cases read : SocketAddress.read? listen with
      | none =>
          rw [read] at named
          cases named
      | some address =>
          rw [read] at named
          cases named
          rcases eq_of_step_awaiting schedules with ⟨otherPlain, rfl⟩ | rfl
          · rw [settlePending_nomadAddr] at closed
            cases closed
            exact ⟨plain, otherPlain, address, rfl, congrArg some (command_agent read)⟩
          · cases closed
    · cases named
  · rintro ⟨plain, otherPlain, address, read, rfl⟩
    have stepped : ["--http-addr", listen, "--nomad-addr", scheduler].foldlM
        (Progress.step .agent) Progress.start =
          .ok ⟨[(.httpAddr, listen)], some (.nomadAddr, some scheduler), false⟩ := by
      simp only [List.foldlM_cons, List.foldlM_nil, step_httpAddr, bind, Except.bind,
        step_plain plain, step_nomadAddr, read, Option.isSome_some, if_true,
        step_plain otherPlain]
      rfl
    simp only [readCommand, stepped, bind, Except.bind, settlePending_nomadAddr]
    exact congrArg (fun command => Except.ok (some command)) (command_agent read)

end CommandLine

end ServiceGroups
