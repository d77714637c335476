import Reckon.CommandLine.Run

/-!
# The program

The command line of the environment: its variables, the width of the screen, the two streams.
-/

namespace Reckon

/-- The variables of the environment that choose options. -/
def readVariables : IO (List (String × String)) := do
  let names := Options.names.map fun name => Options.variableStart ++ name
  let readVariable (name : String) : IO (Option (String × String)) := do
    return (← IO.getEnv name).map fun value => (name, value)
  let spellings := names.map (·.map Char.toUpper) ++ names
  return (← spellings.mapM readVariable).filterMap id

/-- The width of the screen: 80 unless a variable says otherwise. -/
def readScreenWidth : IO Nat := do
  return ((← IO.getEnv "COLUMNS").bind String.toNat?).getD 80

end Reckon

def main (words : List String) : IO UInt32 := do
  let environment ← Reckon.readVariables
  let screen ← Reckon.readScreenWidth
  match Reckon.CommandLine.run { environment, screen } words with
  | .ok answer =>
      IO.print answer.output
      IO.eprint answer.messages
      return answer.status.toUInt32
  | .error abort =>
      IO.eprintln abort.message
      return 1
