import Casebook.Startup

/-!
# The program

Starts the service that the environment describes, writes what it says, and runs until its input ends.
-/

namespace Casebook

/-- The variables of the environment that a start reads. -/
def environment : IO Settings.Variables :=
  Startup.variableNames.filterMapM fun name => do
    return (← IO.getEnv name).map fun value => (name, value)

def serve : IO UInt32 := do
  let started := (Startup.run (← environment)).run
  for line in started.lines do
    IO.println line.toJson.text
  match started.value with
  | .error fault =>
    IO.eprint (Startup.lastWords fault)
    return (Startup.exitCode fault).toUInt32
  | .ok _ =>
    let _ ← (← IO.getStdin).getLine
    IO.println Startup.farewell.toJson.text
    return 0

end Casebook

def main : IO UInt32 := Casebook.serve
