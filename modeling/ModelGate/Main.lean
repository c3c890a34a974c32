import ModelGate.CommandLine.Settings
import ModelGate.Json.Render

/-!
# The command line

Checks the command line and shows the settings that it gives.
-/

namespace ModelGate.CommandLine

def ArgumentError.text : ArgumentError → String
  | .unknownArgument => "unexpected argument found"
  | .invalidValue => "a value is required but none was supplied"
  | .valueValidation => "invalid value"
  | .argumentConflict => "an argument cannot be used multiple times"

end ModelGate.CommandLine

open ModelGate CommandLine in
/-- Shows the settings, or says what is wrong with the command line. -/
def main (arguments : List String) : IO UInt32 := do
  let environment ← (Flag.all.filterMap Flag.envName?).filterMapM fun name => do
    return (← IO.getEnv name).map (name, ·)
  match parse arguments environment with
  | .ok settings =>
    IO.println settings.toJson.render
    return 0
  | .error error =>
    IO.eprintln ("error: " ++ error.text)
    return 2
