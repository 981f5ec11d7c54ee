/-!
# Failures

An operation fails for one of a few reasons, and a step of a longer sequence
wraps the failure of the step.  The message of a failure names every step from
the outside in and then the innermost reason.  What a backend gave as the cause
is not part of any message: it only ends the chain of sources, and what the
cause itself came from follows it.
-/

namespace ServiceGroups

/-- An error of a library, given as the cause of a failure: its message, and the
messages of what it came from, outermost first. -/
structure Cause where
  message : String
  sources : List String
deriving DecidableEq, Repr

/-- A cause that came from nothing else. -/
instance : Coe String Cause :=
  ⟨fun message => ⟨message, []⟩⟩

/-- Why an operation failed. -/
inductive Failure where
  | invalidInput (detail : String)
  | notFound (what : String)
  | conflict (detail : String)
  | unauthorized (detail : String)
  | backend (context : String) (cause : Cause)
  | backendMessage (detail : String)
  | template (detail : String)
  | orchestrator (step : String) (source : Failure)
deriving DecidableEq, Repr

namespace Failure

def message : Failure → String
  | invalidInput detail => "invalid input: " ++ detail
  | notFound what => "not found: " ++ what
  | conflict detail => "conflict: " ++ detail
  | unauthorized detail => "unauthorized: " ++ detail
  | backend context _ => "backend error: " ++ context
  | backendMessage detail => "backend error: " ++ detail
  | template detail => "template error: " ++ detail
  | orchestrator step source => "unable to " ++ step ++ ": " ++ source.message

/-- The errors that a failure came from, outermost first: the failures inside of
it, and the cause that a backend gave. -/
def chain : Failure → List (Failure ⊕ Cause)
  | backend _ cause => [.inr cause]
  | orchestrator _ source => .inl source :: source.chain
  | _ => []

/-- The messages of everything a failure came from, outermost first. -/
def sources (failure : Failure) : List String :=
  failure.chain.flatMap fun
    | .inl source => [source.message]
    | .inr cause => cause.message :: cause.sources

end Failure

end ServiceGroups
