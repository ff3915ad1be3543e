import Courier.CommandLine.Parse
import Courier.Log.Connecting
import Courier.Log.Filter
import Courier.Server.Session
import Courier.Text.Terminal

/-!
# Running the program

`run` reads the command line, connects, sends one request and prints the reply, or a report on why
there is none: a heading, which may be coloured, and the cause. The message of a remote failure is
quoted, so it stays on its line. What it sees of the world is an `Environment`: settings, the time,
which endpoints have a server, the link that a connection gives and the recording server behind it.
-/

namespace Courier

/-! ## Reports -/

/-- What a user is told when a request was not answered. -/
inductive Report where
  | sendFailed (code : Code) (message : String)
  | connection (fault : ConnectFault)
  | header (fault : HeaderFault)
  /-- A text that is shown as it is. -/
  | note (text : String)

namespace Report

def ofStatus (s : Status) : Report := .sendFailed s.code s.message

/-- A heading in bold red. -/
def heading (text : String) : Text.Span := { text, styles := ["1;31"] }

/-- The report as it stands in a line of its own. -/
def body : Report → Text.Styled
  | sendFailed code message =>
    [heading "Send Failed:",
      { text := " code=" ++ code.name ++ " message=" ++ Text.quoted message }]
  | connection fault => [heading "Connection Error:", { text := "\n\n'" ++ fault.message ++ "'" }]
  | header fault => [heading "Invalid Header:", { text := "\n\n'" ++ fault.message ++ "'" }]
  | note text => .ofText text

/-- The report as it is printed: after an empty line. -/
def display (r : Report) (color : Bool) : String := "\n" ++ r.body.render color ++ "\n"

end Report

namespace CommandLine

/-! ## The world of a run -/

/-- What a run sees of the world. -/
structure Environment where
  /-- The variables that are set. -/
  settings : List (String × String) := []
  time : String := ""
  listening : Endpoint → Bool := fun _ => false
  /-- How a call gets to the server once there is a connection, and what comes back. -/
  link : Link := .direct
  server : Recorder := {}

namespace Environment

def get? (env : Environment) (name : String) : Option String := env.settings.lookup name

/-- The value of a variable, unless it is empty. -/
def nonEmpty? (env : Environment) (name : String) : Bool := (env.get? name).getD "" != ""

/-- Whether what is said about the command line is coloured. -/
def colorsUsage (env : Environment) : Bool :=
  !env.nonEmpty? "NO_COLOR" && env.nonEmpty? "CLICOLOR_FORCE"

/-- Whether reports are coloured. -/
def colorsReports (env : Environment) : Bool :=
  match env.get? "CLICOLOR_FORCE" with
  | some value => value != "0"
  | none => false

/-- Whether log lines are coloured. -/
def colorsLog (env : Environment) : Bool := !env.nonEmpty? "NO_COLOR"

/-- Starts the threads of the program. -/
def startWorkers (env : Environment) : Except Crash Unit :=
  (Workers.start (env.get? Workers.countSetting) (env.get? Workers.stackSetting)).mapError .noWorkers

/-- What is let through to the log. -/
def logFilter (env : Environment) : Except Crash Log.Filter :=
  (Log.Filter.ofSetting (env.get? "RUST_LOG")).mapError .cutCharacter

/-- The log lines of the events that are wanted. -/
def logged (env : Environment) (filter : Log.Filter) (events : List Log.Event) : String :=
  String.join ((events.filter filter.passes).map fun e => (e.line env.time).render env.colorsLog)

/-- What is logged about connecting to a URL. -/
def connectingLog (env : Environment) (filter : Log.Filter) (url : String) : String :=
  env.logged filter
    ({ level := .debug
       target := programName
       message := "connecting"
       fields := [("url", Text.quoted url)] } :: Endpoint.attemptEvents env.listening url)

end Environment

/-- What a run leaves behind. -/
structure RunResult where
  exitCode : Nat
  stdout : String := ""
  stderr : String := ""
  server : Recorder

/-- The options of a call, with every header, unless one is refused. -/
def callOptions (headers : List (String × String)) (timeoutMs : Option Nat) :
    Except HeaderFault Options :=
  Options.withHeaders { timeout := timeoutMs.map .ofMillis } headers

namespace Environment

/-- The end of a run that crashes. -/
def crashed (env : Environment) (crash : Crash) : RunResult :=
  { exitCode := 101, stderr := "panic: " ++ crash.message, server := env.server }

/-- The end of a run that reports why there is no reply. -/
def reported (env : Environment) (logged : String) (report : Report) : RunResult :=
  { exitCode := 1
    stderr := logged ++ report.display env.colorsReports ++ "\n"
    server := env.server }

/-- The end of a run whose command line is not run. -/
def refused (env : Environment) (fault : Fault) : RunResult :=
  let text := fault.render env.colorsUsage
  { exitCode := fault.exitCode
    stdout := if fault.isRequested then text else ""
    stderr := if fault.isRequested then "" else text
    server := env.server }

/-- Sends a request to the server that is connected. -/
def send (env : Environment) (logged : String) (call : Call) : RunResult :=
  let (server, outcome) := env.server.call env.link call
  match outcome with
  | .ok reply => { exitCode := 0, stdout := reply ++ "\n", stderr := logged, server }
  | .error (.failed status) => { env.reported logged (.ofStatus status) with server }
  | .error (.crashed crash) => { env.crashed crash with server }

/-- Runs an invocation. Headers are judged before anything is connected. -/
def invoke (env : Environment) (filter : Log.Filter) (i : Invocation) : RunResult :=
  match callOptions i.command.headers i.command.timeoutMs with
  | .error .noRoom => env.crashed .headersFull
  | .error fault => env.reported "" (.header fault)
  | .ok options =>
    let logged := env.connectingLog filter i.url
    match Endpoint.connect env.listening i.url with
    | .error fault => env.reported logged (.connection fault)
    | .ok _ =>
      let request : Request :=
        { peerId := i.command.peerId
          data := i.command.data
          topic := .ofOption i.command.topic }
      env.send logged { request, options }

end Environment

/-- Runs the program with the arguments after its name. Its threads start first, then the command
line is read, and what is logged is settled before the invocation runs. -/
def run (env : Environment) (args : List Argument) : RunResult :=
  match env.startWorkers with
  | .error crash => env.crashed crash
  | .ok () =>
    match parse args with
    | .error fault => env.refused fault
    | .ok invocation =>
      match env.logFilter with
      | .error crash => env.crashed crash
      | .ok filter => env.invoke filter invocation

end CommandLine

end Courier
