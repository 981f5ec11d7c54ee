import ServiceGroups.Http.Refusal

/-!
# What a failure tells

A failure is an innermost failure inside of steps.  Its message names the steps from the outside
in, and the chain of its sources has the failures inside of it, the message of each being what
the one before says behind its first step.  The cause that a backend gave ends the chain, and
what the cause came from is all that can follow.  It is in no message, so that no response
depends on it.
-/

namespace ServiceGroups

namespace Failure

/-- The steps around the innermost failure, outermost first. -/
def steps : Failure → List String
  | orchestrator step source => step :: source.steps
  | _ => []

/-- The failure inside of steps, the first of them outermost. -/
def within (steps : List String) (failure : Failure) : Failure :=
  steps.foldr orchestrator failure

/-- What the message says of a step. -/
def opening (step : String) : String :=
  "unable to " ++ step ++ ": "

/-- The failure with another cause, wherever a backend gave one. -/
def withCause (cause : Cause) : Failure → Failure
  | backend context _ => backend context cause
  | orchestrator step source => orchestrator step (source.withCause cause)
  | failure => failure

end Failure

namespace Http.Refusal

/-- The refusal with another cause, wherever a backend gave one. -/
def withCause (cause : Cause) : Refusal → Refusal
  | failed failure => failed (failure.withCause cause)
  | refusal => refusal

end Http.Refusal

example :
    (Failure.orchestrator "register job with nomad"
        (.backend "nomad register request" ⟨"error sending request", ["connection refused"]⟩)).sources =
      ["backend error: nomad register request", "error sending request", "connection refused"] := by
  decide

end ServiceGroups
