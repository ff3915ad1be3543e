import Courier.CommandLine.Run
import Std.Time.Format

/-!
# The program

The outer layer of the command line: it collects the arguments, the variables and the time, runs
`CommandLine.run` on them, and prints what the run leaves behind. No network is linked in, so
nothing listens at any endpoint.
-/

namespace Courier.CommandLine

/-- The time as it stands in front of a log line. -/
def logTime (now : Std.Time.Timestamp) : String :=
  (Std.Time.PlainDateTime.ofWallTime (now.toWallTime .zero)).format
    "uuuu-MM-dd'T'HH:mm:ss.SSSSSS'Z'"

/-- The variables that a run looks at. -/
def variableNames : List String :=
  ["RUST_LOG", "NO_COLOR", "CLICOLOR_FORCE", Workers.countSetting, Workers.stackSetting]

/-- The environment of this process. -/
def processEnvironment : IO Environment := do
  let settings ← variableNames.filterMapM fun name => do
    return (← IO.getEnv name).map fun value => (name, value)
  return { settings, time := logTime (← Std.Time.Timestamp.now) }

end Courier.CommandLine

def main (args : List String) : IO UInt32 := do
  let env ← Courier.CommandLine.processEnvironment
  let r := Courier.CommandLine.run env (args.map .ofText)
  (← IO.getStdout).putStr r.stdout
  (← IO.getStderr).putStr r.stderr
  return r.exitCode.toUInt32
