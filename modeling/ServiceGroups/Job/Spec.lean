import ServiceGroups.Failure
import ServiceGroups.Json.Record

/-!
# Jobs of the scheduler

The scheduler keeps jobs in a canonical JSON form of its own.  All that matters
here is the identity the form carries; the rest is handed back unchanged.  An
evaluation is the scheduler's receipt for a change.
-/

namespace ServiceGroups

/-- A job in the scheduler's canonical form, with the identity it carries. -/
structure Job.Spec where
  id : String
  form : Json.Value

namespace Job.Spec

/-- The identity that a canonical form carries: nonempty text under `ID`. -/
def identity? (form : Json.Value) : Option String :=
  ((form.member? "ID").bind Json.Value.text?).filter (· ≠ "")

/-- A job from its canonical form, which must carry an identity. -/
def ofForm (form : Json.Value) : Except Failure Job.Spec :=
  match identity? form with
  | some id => .ok ⟨id, form⟩
  | none => .error (.invalidInput "nomad job is missing an ID")

end Job.Spec

/-- The scheduler's receipt for a change. -/
structure Evaluation where
  id : String
deriving DecidableEq

instance : Json.Record Evaluation where
  fields := [.default "EvalID" .text ""]
  toRow evaluation := (evaluation.id, ())
  ofRow := fun (id, ()) => ⟨id⟩
  ofRow_toRow _ := rfl
  toRow_ofRow _ := rfl

end ServiceGroups
