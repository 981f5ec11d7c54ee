import ServiceGroups.Proofs.Running

/-!
# Interleaved programs

Two programs that are under way together take turns.  Each turn is one call, to one
store and one scheduler that both share.  When the turns are over, the first program
runs to its end and then the second.  What they leave is serial if one program after
the other would leave the same.
-/

namespace ServiceGroups

variable {α β σ : Type}

/-- A program under way, with the store and the scheduler's state as they are. -/
structure Progress (α σ : Type) where
  rest : Program α
  store : Store
  state : σ

/-- What two programs leave together: their results, the store and the scheduler's state. -/
structure Joint (α σ : Type) where
  first : α
  second : α
  store : Store
  state : σ

/-- The program whose turn it is. -/
inductive Turn where
  | first
  | second
deriving DecidableEq, Repr

namespace Joint

def swap (joint : Joint α σ) : Joint α σ :=
  ⟨joint.second, joint.first, joint.store, joint.state⟩

/-- Both results are changed. -/
def map (change otherChange : α → β) (joint : Joint α σ) : Joint β σ :=
  ⟨change joint.first, otherChange joint.second, joint.store, joint.state⟩

/-- The same results and the same store, with states that cannot be told apart. -/
structure Alike [Setoid σ] (left right : Joint α σ) : Prop where
  first : left.first = right.first
  second : left.second = right.second
  store : left.store = right.store
  state : left.state ≈ right.state

namespace Alike

variable [Setoid σ] {left middle right : Joint α σ}

theorem refl (joint : Joint α σ) : joint.Alike joint :=
  ⟨rfl, rfl, rfl, Setoid.refl _⟩

theorem trans (one : left.Alike middle) (other : middle.Alike right) : left.Alike right :=
  ⟨one.first.trans other.first, one.second.trans other.second, one.store.trans other.store,
    Setoid.trans one.state other.state⟩

theorem swap (alike : left.Alike right) : left.swap.Alike right.swap :=
  ⟨alike.second, alike.first, alike.store, alike.state⟩

end Alike

end Joint

namespace Program

variable (scheduler : Scheduler σ)

/-- A program after its next call. -/
def advance (store : Store) (state : σ) : Program α → Progress α σ
  | .done result => ⟨.done result, store, state⟩
  | .step (.store call) next =>
    ⟨next (store.perform call).1, (store.perform call).2, state⟩
  | .step (.jobs call) next =>
    ⟨next (scheduler.answer call state).1, store, (scheduler.answer call state).2⟩

/-- The first program is run to its end, and then the second. -/
def before (first second : Program α) (store : Store) (state : σ) : Joint α σ :=
  let former := first.run scheduler store state
  let latter := second.run scheduler former.store former.state
  ⟨former.result, latter.result, latter.store, latter.state⟩

/-- The programs take turns. -/
def interleave : List Turn → Program α → Program α → Store → σ → Joint α σ
  | [], first, second, store, state => first.before scheduler second store state
  | .first :: turns, first, second, store, state =>
    let progress := first.advance scheduler store state
    interleave turns progress.rest second progress.store progress.state
  | .second :: turns, first, second, store, state =>
    let progress := second.advance scheduler store state
    interleave turns first progress.rest progress.store progress.state

/-- One of the programs after the other would leave the same. -/
def Serial [Setoid σ] (first second : Program α) (store : Store) (state : σ)
    (joint : Joint α σ) : Prop :=
  joint.Alike (first.before scheduler second store state) ∨
    joint.Alike (second.before scheduler first store state).swap

variable (first second : Program α) (store : Store) (state : σ)

theorem run_advance (program : Program α) :
    let progress := program.advance scheduler store state
    let outcome := program.run scheduler store state
    let later := progress.rest.run scheduler progress.store progress.state
    later.result = outcome.result ∧ later.store = outcome.store ∧
      later.state = outcome.state := by
  cases program with
  | done result => exact ⟨rfl, rfl, rfl⟩
  | step call next => cases call <;> exact ⟨rfl, rfl, rfl⟩

/-- A call that is made beforehand changes nothing. -/
theorem before_advance :
    let progress := first.advance scheduler store state
    progress.rest.before scheduler second progress.store progress.state =
      first.before scheduler second store state := by
  obtain ⟨result, left, final⟩ := run_advance scheduler store state first
  simp only [before, result, left, final]

variable {scheduler first second store state}

theorem before_done (result : α) :
    first.before scheduler (.done result) store state =
      ((Program.done result).before scheduler first store state).swap :=
  rfl

/-- The other program is alone with a program that is done. -/
theorem interleave_done_first (turns : List Turn) (result : α) :
    interleave scheduler turns (.done result) second store state =
      (Program.done result).before scheduler second store state := by
  induction turns generalizing second store state with
  | nil => rfl
  | cons turn turns ih =>
      cases turn with
      | first => exact ih
      | second =>
          have alone := before_advance scheduler second (.done result) store state
          exact ih.trans (congrArg Joint.swap alone)

theorem interleave_done_second (turns : List Turn) (result : α) :
    interleave scheduler turns first (.done result) store state =
      first.before scheduler (.done result) store state := by
  induction turns generalizing first store state with
  | nil => rfl
  | cons turn turns ih =>
      cases turn with
      | first => exact ih.trans (before_advance scheduler first (.done result) store state)
      | second => exact ih

section Results

variable (change otherChange : α → β)

theorem before_map :
    (first.bind fun result => .done (change result)).before scheduler
        (second.bind fun result => .done (otherChange result)) store state =
      (first.before scheduler second store state).map change otherChange := by
  simp only [before, run_bind_done]
  rfl

/-- Programs whose results are changed take the same turns. -/
theorem interleave_map (turns : List Turn) :
    interleave scheduler turns (first.bind fun result => .done (change result))
        (second.bind fun result => .done (otherChange result)) store state =
      (interleave scheduler turns first second store state).map change otherChange := by
  have advanced (program : Program α) (change : α → β) (store : Store) (state : σ) :
      (program.bind fun result => .done (change result)).advance scheduler store state =
        let progress := program.advance scheduler store state
        ⟨progress.rest.bind fun result => .done (change result), progress.store,
          progress.state⟩ := by
    cases program with
    | done result => rfl
    | step call next => cases call <;> rfl
  induction turns generalizing first second store state with
  | nil => exact before_map change otherChange
  | cons turn turns ih => cases turn <;> simp only [interleave, advanced, ih]

end Results

namespace Serial

variable [Setoid σ] {joint other : Joint α σ}

theorem swap (serial : first.Serial scheduler second store state joint) :
    second.Serial scheduler first store state joint.swap :=
  serial.symm.imp (fun alike => alike.swap) (fun alike => alike.swap)

theorem of_alike (alike : other.Alike joint)
    (serial : first.Serial scheduler second store state joint) :
    first.Serial scheduler second store state other :=
  serial.imp alike.trans alike.trans

end Serial

section Turns

variable [Setoid σ]

variable (scheduler) in
/-- The next call of the first program is its last, or it leaves the store as it is and
the programs related, and a run of the second from there on is one that is serial. -/
inductive Yields (related : Program α → Program α → σ → Prop) (store : Store) (state : σ)
    (first second : Program α) : Prop where
  | last (result : α) (ended : (first.advance scheduler store state).rest = .done result)
  | goesOn (kept : (first.advance scheduler store state).store = store)
      (remain : related (first.advance scheduler store state).rest second
        (first.advance scheduler store state).state)
      (serial : first.Serial scheduler second store state
        (second.before scheduler (first.advance scheduler store state).rest store
          (first.advance scheduler store state).state).swap)

/-- What is serial after a call that leaves the store as it is was serial before it. -/
theorem Serial.of_advance {joint : Joint α σ}
    (kept : (first.advance scheduler store state).store = store)
    (serial : first.Serial scheduler second store state
      (second.before scheduler (first.advance scheduler store state).rest store
        (first.advance scheduler store state).state).swap)
    (later : (first.advance scheduler store state).rest.Serial scheduler second store
      (first.advance scheduler store state).state joint) :
    first.Serial scheduler second store state joint := by
  rcases later with former | latter
  · have same : (first.advance scheduler store state).rest.before scheduler second
        (first.advance scheduler store state).store (first.advance scheduler store state).state =
          first.before scheduler second store state :=
      before_advance scheduler first second store state
    rw [kept] at same
    rw [same] at former
    exact .inl former
  · exact serial.of_alike latter

/-- If related programs yield to each other, then whatever turns they take is serial. -/
theorem interleave_serial (related : Program α → Program α → σ → Prop)
    (symm : ∀ {first second : Program α} {state : σ},
      related first second state → related second first state)
    (yields : ∀ {first second : Program α} {state : σ}, related first second state →
      Yields scheduler related store state first second)
    (turns : List Turn) (given : related first second state) :
    first.Serial scheduler second store state
      (interleave scheduler turns first second store state) := by
  -- While both are under way the store stays as it is; a last call leaves the other alone.
  induction turns generalizing first second state with
  | nil => exact .inl (Joint.Alike.refl _)
  | cons turn turns ih =>
      cases turn with
      | first =>
          rw [interleave]
          cases yields given with
          | last result ended =>
              refine .inl ?_
              rw [ended, interleave_done_first, ← ended, before_advance]
              exact Joint.Alike.refl _
          | goesOn kept remain serial =>
              rw [kept]
              exact serial.of_advance kept (ih remain)
      | second =>
          rw [interleave]
          cases yields (symm given) with
          | last result ended =>
              refine .inr ?_
              rw [ended, interleave_done_second, before_done, ← ended, before_advance]
              exact Joint.Alike.refl _
          | goesOn kept remain serial =>
              rw [kept]
              have later := Serial.of_advance kept serial (ih (symm remain)).swap
              exact later.swap

end Turns

end Program

end ServiceGroups
