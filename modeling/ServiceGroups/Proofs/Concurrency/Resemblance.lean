import ServiceGroups.Proofs.Concurrency.Repetition

/-!
# Programs that can be put in order

Two programs are serializable if, whatever turns they take, they leave what resembles one of
them after the other: results of the same statuses, and the same rows and jobs apart from
identities and times, which are generated.
-/

namespace ServiceGroups

/-- A group apart from what is generated for it. -/
def Group.ageless (group : Group) : Group :=
  { group with id := Uuid.nil, createdAt := .epoch, updatedAt := .epoch }

theorem Group.shape_eq_of_ageless {row other : Group} (same : row.ageless = other.ageless) :
    row.templateId = other.templateId ∧ row.capacity = other.capacity := by
  have templates := congrArg Group.templateId same
  have capacities := congrArg Group.capacity same
  exact ⟨templates, capacities⟩

/-- A template apart from what is generated for it. -/
def Template.ageless (template : Template) : Template :=
  { template with id := Uuid.nil, createdAt := .epoch }

variable {α β : Type}

namespace Joint

/-- The same statuses and rows, apart from identities and times. -/
structure SameRows (status : α → Nat) (joint other : Joint α Ledger) : Prop where
  first : status joint.first = status other.first
  second : status joint.second = status other.second
  templates : ∀ id, (joint.store.templates.find? id).map Template.ageless =
    (other.store.templates.find? id).map Template.ageless
  groups : ∀ key, (joint.store.groups.find? key).map Group.ageless =
    (other.store.groups.find? key).map Group.ageless

/-- The same statuses, rows and jobs, apart from identities and times. -/
structure Resembles (status : α → Nat) (joint other : Joint α Ledger) : Prop
    extends SameRows status joint other where
  jobs : joint.state ≈ other.state

variable {status : α → Nat} {joint middle other : Joint α Ledger}

namespace SameRows

theorem of_store (status : α → Nat) (first : joint.first = other.first)
    (second : joint.second = other.second) (store : joint.store = other.store) :
    joint.SameRows status other where
  first := congrArg status first
  second := congrArg status second
  templates id := by rw [store]
  groups key := by rw [store]

theorem symm (rows : joint.SameRows status other) : other.SameRows status joint :=
  ⟨rows.first.symm, rows.second.symm, fun id => (rows.templates id).symm, fun key =>
    (rows.groups key).symm⟩

theorem trans (one : joint.SameRows status middle) (rest : middle.SameRows status other) :
    joint.SameRows status other :=
  ⟨one.first.trans rest.first, one.second.trans rest.second,
    fun id => (one.templates id).trans (rest.templates id),
    fun key => (one.groups key).trans (rest.groups key)⟩

theorem swap (rows : joint.SameRows status other) : joint.swap.SameRows status other.swap :=
  ⟨rows.second, rows.first, rows.templates, rows.groups⟩

/-- Changes of the results that keep their statuses do not matter. -/
theorem map_iff {otherStatus : β → Nat} {change otherChange : α → β}
    (kept : ∀ result, otherStatus (change result) = status result)
    (otherKept : ∀ result, otherStatus (otherChange result) = status result) :
    (joint.map change otherChange).SameRows otherStatus (other.map change otherChange) ↔
      joint.SameRows status other := by
  constructor
  · intro ⟨first, second, templates, groups⟩
    refine ⟨?_, ?_, templates, groups⟩
    · exact (kept _).symm.trans (first.trans (kept _))
    · exact (otherKept _).symm.trans (second.trans (otherKept _))
  · intro ⟨first, second, templates, groups⟩
    refine ⟨?_, ?_, templates, groups⟩
    · exact (kept _).trans (first.trans (kept _).symm)
    · exact (otherKept _).trans (second.trans (otherKept _).symm)

end SameRows

theorem Alike.resembles (alike : joint.Alike other) (status : α → Nat) :
    joint.Resembles status other :=
  ⟨.of_store status alike.first alike.second alike.store, alike.state⟩

theorem Resembles.swap (resembles : joint.Resembles status other) :
    joint.swap.Resembles status other.swap :=
  ⟨resembles.toSameRows.swap, resembles.jobs⟩

theorem Resembles.map_iff {otherStatus : β → Nat} {change otherChange : α → β}
    (kept : ∀ result, otherStatus (change result) = status result)
    (otherKept : ∀ result, otherStatus (otherChange result) = status result) :
    (joint.map change otherChange).Resembles otherStatus (other.map change otherChange) ↔
      joint.Resembles status other := by
  have rows : (joint.map change otherChange).SameRows otherStatus (other.map change otherChange) ↔
      joint.SameRows status other := SameRows.map_iff kept otherKept
  exact ⟨fun ⟨given, jobs⟩ => ⟨rows.mp given, jobs⟩, fun ⟨given, jobs⟩ => ⟨rows.mpr given, jobs⟩⟩

end Joint

namespace Program

/-- Whatever turns the programs take, what they leave resembles one after the other. -/
def Serializable (status : α → Nat) (first second : Program α) (store : Store) (jobs : Ledger) :
    Prop :=
  ∀ turns, let joint := interleave Ledger.scheduler turns first second store jobs
    joint.Resembles status (first.before Ledger.scheduler second store jobs) ∨
      joint.Resembles status (second.before Ledger.scheduler first store jobs).swap

section Order

variable {σ : Type} (scheduler : Scheduler σ) (first second : Program α) (store : Store) (state : σ)

/-- There are turns that run the second program to its end first. -/
theorem exists_turns_before :
    ∃ turns, interleave scheduler turns first second store state =
      (second.before scheduler first store state).swap := by
  induction second generalizing store state with
  | done result => exact ⟨[], before_done result⟩
  | step call next ih =>
      have advanced := before_advance scheduler (.step call next) first store state
      cases call with
      | store call =>
          obtain ⟨turns, same⟩ := ih (store.perform call).1 (store.perform call).2 state
          exact ⟨.second :: turns, same.trans (congrArg Joint.swap advanced)⟩
      | jobs call =>
          obtain ⟨turns, same⟩ :=
            ih (scheduler.answer call state).1 store (scheduler.answer call state).2
          exact ⟨.second :: turns, same.trans (congrArg Joint.swap advanced)⟩

/-- What the programs leave in one order of naming them, they can leave in the other. -/
theorem exists_turns_swap (turns : List Turn) :
    ∃ others, interleave scheduler others first second store state =
      (interleave scheduler turns second first store state).swap := by
  induction turns generalizing first second store state with
  | nil => exact exists_turns_before scheduler first second store state
  | cons turn turns ih =>
      cases turn with
      | first =>
          obtain ⟨others, same⟩ := ih first (second.advance scheduler store state).rest
            (second.advance scheduler store state).store
            (second.advance scheduler store state).state
          exact ⟨.second :: others, same⟩
      | second =>
          obtain ⟨others, same⟩ := ih (first.advance scheduler store state).rest second
            (first.advance scheduler store state).store
            (first.advance scheduler store state).state
          exact ⟨.first :: others, same⟩

end Order

namespace Serializable

variable {status : α → Nat} {first second : Program α} {store : Store} {jobs : Ledger}

theorem swap (serializable : Serializable status first second store jobs) :
    Serializable status second first store jobs := by
  intro turns
  obtain ⟨others, same⟩ := exists_turns_swap Ledger.scheduler first second store jobs turns
  have ordered := serializable others
  simp only [same] at ordered
  exact (ordered.imp Joint.Resembles.swap Joint.Resembles.swap).symm

/-- Changes of the results that keep their statuses do not matter. -/
theorem map_iff {otherStatus : β → Nat} {change otherChange : α → β}
    (kept : ∀ result, otherStatus (change result) = status result)
    (otherKept : ∀ result, otherStatus (otherChange result) = status result) :
    Serializable otherStatus (first.bind fun result => .done (change result))
        (second.bind fun result => .done (otherChange result)) store jobs ↔
      Serializable status first second store jobs := by
  refine forall_congr' fun turns => or_congr ?_ ?_
  · rw [interleave_map, before_map]
    exact Joint.Resembles.map_iff kept otherKept
  · rw [interleave_map, before_map]
    let latter := (second.before Ledger.scheduler first store jobs).swap
    change Joint.Resembles _ _ (latter.map change otherChange) ↔ _
    exact Joint.Resembles.map_iff kept otherKept

end Serializable

/-- Programs that are serial are serializable. -/
theorem serializable_of_serial {first second : Program α} {store : Store} {jobs : Ledger}
    (status : α → Nat)
    (serial : ∀ turns, first.Serial Ledger.scheduler second store jobs
      (interleave Ledger.scheduler turns first second store jobs)) :
    Serializable status first second store jobs :=
  fun turns => (serial turns).imp (fun alike => alike.resembles status) fun alike =>
    alike.resembles status

end Program

namespace Joint

variable {status : α → Nat} {joint one other : Joint α Ledger} {id : String}
  {allowed : Option Job.Spec → Prop}

/-- Where one entry alone is allowed, nothing is left open. -/
theorem alike_of_upTo (single : ∀ entry another, allowed entry → allowed another → entry = another)
    (alike : letI := Ledger.upTo id allowed; joint.Alike one) : joint.Alike one := by
  obtain ⟨first, second, store, state⟩ := alike
  refine ⟨first, second, store, fun key => ?_⟩
  rcases state key with same | ⟨-, former, latter⟩
  · exact same
  · exact single _ _ former latter

/-- Of two that have the same rows, and the same jobs except for one, what is like one of
them up to this job resembles one of them. -/
theorem resembles_either (alike : letI := Ledger.upTo id allowed; joint.Alike one)
    (rows : one.SameRows status other)
    (entries : ∀ entry, allowed entry → entry = one.state.find? id ∨ entry = other.state.find? id)
    (apart : ∀ key, key ≠ id → one.state.find? key = other.state.find? key) :
    joint.Resembles status one ∨ joint.Resembles status other := by
  obtain ⟨first, second, store, state⟩ := alike
  have own : joint.SameRows status one := .of_store status first second store
  have others (key : String) (different : key ≠ id) :
      joint.state.find? key = one.state.find? key :=
    (state key).resolve_right fun same => different same.1
  have entry : joint.state.find? id = one.state.find? id ∨
      joint.state.find? id = other.state.find? id := by
    rcases state id with same | ⟨-, there, -⟩
    · exact .inl same
    · exact entries _ there
  refine entry.imp (fun same => ⟨own, fun key => ?_⟩) fun same => ⟨own.trans rows, fun key => ?_⟩
  · by_cases job : key = id
    · rwa [job]
    · exact others key job
  · by_cases job : key = id
    · rwa [job]
    · exact (others key job).trans (apart key job)

end Joint

end ServiceGroups
