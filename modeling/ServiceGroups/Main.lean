import ServiceGroups.Invocation
import ServiceGroups.Url.Domain

/-!
# The program

The outer layer of the program: it reads the environment and the words of the
command line, invokes the program, and writes what the invocation reports.  It
has no network of its own, so neither the database nor the job scheduler can be
reached from it.
-/

open ServiceGroups

/-- The environment, as far as the program looks at it. -/
def readEnvironment : IO Environment := do
  let names := Settings.variableNames ++ Invocation.logVariables
  let values ← names.mapM fun name => do return (name, ← IO.getEnv name)
  return fun name => (values.lookup name).join

def main (words : List String) : IO UInt32 := do
  let environment ← readEnvironment
  let report := Invocation.run ⟨environment, .unreachable, .unreachable⟩ words
  for event in report.logs do
    IO.println event.line
  IO.print report.output
  if let some message := report.failure then
    IO.eprintln ("Error: " ++ message)
  return UInt32.ofNat report.exitCode
