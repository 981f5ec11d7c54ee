/-!
# Crowds

Any number of agents share a state and take turns in any order.  In its turn an agent
sees the state, changes it, and is changed itself.  What holds of the state and of each
agent beside it holds after any turns, if an agent's turn keeps it for the agent and
spares the others.
-/

namespace ServiceGroups

variable {α σ : Type}

/-- Agents and the state that they share. -/
structure Crowd (α σ : Type) where
  agents : List α
  shared : σ

namespace Crowd

/-- The shared state is sound, and every agent fits it. -/
structure Holds (sound : σ → Prop) (fits : Nat → α → σ → Prop) (crowd : Crowd α σ) : Prop where
  shared : sound crowd.shared
  agents : ∀ index agent, crowd.agents[index]? = some agent → fits index agent crowd.shared

variable (act : Nat → α → σ → α × σ)

/-- The turn of one agent, if there is an agent of that number. -/
def turn (crowd : Crowd α σ) (index : Nat) : Crowd α σ :=
  match crowd.agents[index]? with
  | none => crowd
  | some agent =>
    ⟨crowd.agents.set index (act index agent crowd.shared).1, (act index agent crowd.shared).2⟩

def run (crowd : Crowd α σ) (turns : List Nat) : Crowd α σ :=
  turns.foldl (turn act) crowd

variable {act} {crowd : Crowd α σ} {index : Nat}

theorem run_append (turns more : List Nat) :
    crowd.run act (turns ++ more) = (crowd.run act turns).run act more :=
  List.foldl_append

theorem run_concat (turns : List Nat) (index : Nat) :
    crowd.run act (turns ++ [index]) = (crowd.run act turns).turn act index :=
  run_append turns [index]

theorem turn_of_none (absent : crowd.agents[index]? = none) : crowd.turn act index = crowd := by
  rw [turn, absent]

theorem turn_of_some {agent : α} (present : crowd.agents[index]? = some agent) :
    crowd.turn act index = ⟨crowd.agents.set index (act index agent crowd.shared).1,
      (act index agent crowd.shared).2⟩ := by
  rw [turn, present]

theorem agents_turn (other : Nat) :
    (crowd.turn act index).agents[other]? =
      if other = index then
        crowd.agents[index]?.map fun agent => (act index agent crowd.shared).1
      else crowd.agents[other]? := by
  cases present : crowd.agents[index]? with
  | none =>
      rw [turn_of_none present]
      split
      · next same => rw [same, present, Option.map_none]
      · rfl
  | some agent =>
      obtain ⟨inside, -⟩ := List.getElem?_eq_some_iff.mp present
      rw [turn_of_some present, Option.map_some]
      split
      · next same =>
          rw [same]
          exact List.getElem?_set_self inside
      · next different => exact List.getElem?_set_ne (Ne.symm different)

theorem agents_turn_self {agent : α} (present : crowd.agents[index]? = some agent) :
    (crowd.turn act index).agents[index]? = some (act index agent crowd.shared).1 := by
  rw [agents_turn, if_pos rfl, present, Option.map_some]

theorem turn_append (before after : List α) (agent : α) (shared : σ) :
    (Crowd.mk (before ++ agent :: after) shared).turn act before.length =
      ⟨before ++ (act before.length agent shared).1 :: after,
        (act before.length agent shared).2⟩ := by
  have present : (before ++ agent :: after)[before.length]? = some agent := by simp
  rw [turn_of_some present, List.set_append_right _ _ (Nat.le_refl _), Nat.sub_self,
    List.set_cons_zero]

section Invariants

variable {sound : σ → Prop} {fits : Nat → α → σ → Prop}

theorem Holds.turn
    (acts : ∀ index agent shared, sound shared → fits index agent shared →
      sound (act index agent shared).2 ∧
        fits index (act index agent shared).1 (act index agent shared).2)
    (spares : ∀ index agent shared other bystander, sound shared → fits index agent shared →
      fits other bystander shared → fits other bystander (act index agent shared).2)
    (holds : crowd.Holds sound fits) (index : Nat) : (crowd.turn act index).Holds sound fits := by
  cases present : crowd.agents[index]? with
  | none => rwa [turn_of_none present]
  | some agent =>
      have fit := holds.agents index agent present
      obtain ⟨soundNext, fitNext⟩ := acts index agent crowd.shared holds.shared fit
      have shared : (crowd.turn act index).shared = (act index agent crowd.shared).2 := by
        rw [turn_of_some present]
      -- The agent itself fits the next state because it has acted, any other one because it is spared.
      refine ⟨shared ▸ soundNext, fun other bystander found => ?_⟩
      rw [shared]
      rw [agents_turn, present, Option.map_some] at found
      split at found
      · next same =>
          cases found
          exact same ▸ fitNext
      · exact spares index agent crowd.shared other bystander holds.shared fit
          (holds.agents other bystander found)

/-- What every turn keeps holds after any turns. -/
theorem Holds.run
    (acts : ∀ index agent shared, sound shared → fits index agent shared →
      sound (act index agent shared).2 ∧
        fits index (act index agent shared).1 (act index agent shared).2)
    (spares : ∀ index agent shared other bystander, sound shared → fits index agent shared →
      fits other bystander shared → fits other bystander (act index agent shared).2)
    (holds : crowd.Holds sound fits) (turns : List Nat) : (crowd.run act turns).Holds sound fits := by
  induction turns generalizing crowd with
  | nil => exact holds
  | cons index turns ih => exact ih (holds.turn acts spares index)

/-- What an agent keeps in its own turns it keeps in those of the others. -/
theorem exists_of_persists (keeps : α → Prop)
    (persists : ∀ index agent shared, keeps agent → keeps (act index agent shared).1)
    {agent : α} (present : crowd.agents[index]? = some agent) (kept : keeps agent)
    (turns : List Nat) :
    ∃ later, (crowd.run act turns).agents[index]? = some later ∧ keeps later := by
  induction turns generalizing crowd agent with
  | nil => exact ⟨agent, present, kept⟩
  | cons next turns ih =>
      by_cases same : index = next
      · subst same
        exact ih (agents_turn_self present) (persists index agent crowd.shared kept)
      · have stays : (crowd.turn act next).agents[index]? = some agent := by
          rw [agents_turn, if_neg same, present]
        exact ih stays kept

end Invariants

end Crowd

end ServiceGroups
