import Courier.CommandLine.Target
import Courier.Text.Terminal

/-!
# Usage lines and help pages

What the program shows about itself. Literal words are in bold when there is colour, and so are
the headings, underlined.
-/

namespace Courier.CommandLine

open Text (Span Styled)

/-! ## Styles -/

def literal (text : String) : Span := { text, styles := ["1"] }
def headingSpan (text : String) : Span := { text, styles := ["1", "4"] }
def valid (text : String) : Span := { text, styles := ["32"] }
def invalid (text : String) : Span := { text, styles := ["33"] }
def errorSpan (text : String) : Span := { text, styles := ["1", "31"] }
def normal (text : String) : Span := { text }

def programName : String := "reqresp"

/-! ## Usage -/

/-- An option in a usage line. -/
inductive UsageOption where
  | setting (s : Setting)
  | flag (f : Flag)
  deriving DecidableEq

def UsageOption.styled : UsageOption → Styled
  | .setting s => [literal ("--" ++ s.long), normal (" " ++ s.placeholder)]
  | .flag f => [literal ("--" ++ f.long)]

/-- What a usage line is about. -/
inductive Usage where
  /-- The program, with the options that were given. -/
  | program (options : List UsageOption)
  /-- The command `send` in general. -/
  | send
  /-- The command `send` with the options that were given. -/
  | sendWith (options : List UsageOption)
  /-- The command `send` with a flag, and all else as one choice. -/
  | sendChoice (flag : Flag)
  | help
  deriving DecidableEq

namespace Usage

def sendName : String := programName ++ " <URL> " ++ sendCommand
def helpName : String := programName ++ " <URL> " ++ helpCommand

/-- Options, each after a space. -/
def options (os : List UsageOption) : Styled := os.flatMap fun o => normal " " :: o.styled

/-- All that `send` takes, as one choice. -/
def choice : String :=
  "<PEER_ID|DATA|" ++ "|".intercalate (Setting.all.map Setting.display) ++ ">"

def line : Usage → Styled
  | .program os => [literal programName] ++ options os ++ [normal " <URL> <COMMAND>"]
  | .send => [literal sendName, normal " [OPTIONS] <PEER_ID> <DATA>"]
  | .sendWith os => [literal sendName] ++ options os ++ [normal " <PEER_ID> <DATA>"]
  | .sendChoice flag => [literal sendName] ++ options [.flag flag] ++ [normal (" " ++ choice)]
  | .help => [literal helpName, normal " [COMMAND]..."]

/-- The usage under its heading. -/
def styled (u : Usage) : Styled := [headingSpan "Usage:", normal " "] ++ u.line

end Usage

/-! ## Help -/

def versionText : String := programName ++ " 0.1.0\n"

inductive Page where
  | program
  /-- The short page of `send`. -/
  | sendSummary
  | send
  | help
  deriving DecidableEq

namespace Page

def aboutSend : String := "Send a request to a peer and print its reply"

def aboutHelp : String := "Print this message or the help of the given subcommand(s)"

def aboutTopic : String :=
  "Topic to tag the request with. An empty value is sent as an empty topic, "
    ++ "omit the flag to send no topic at all"

def aboutTimeout : String :=
  "Deadline of the call in milliseconds, sent as the gRPC `grpc-timeout` "
    ++ "header and enforced by the server"

def programPage : Styled :=
  [normal "Request/response messaging client\n\n"] ++ (Usage.program []).styled
    ++ [normal "\n\n", headingSpan "Commands:",
      normal "\n  ", literal "send", normal ("  " ++ aboutSend),
      normal "\n  ", literal "help", normal ("  " ++ aboutHelp),
      normal "\n\n", headingSpan "Arguments:",
      normal "\n  <URL>  The server URL to connect to (e.g. http://localhost:50051)",
      normal "\n\n", headingSpan "Options:",
      normal "\n  ", literal "-h", normal ", ", literal "--help", normal "     Print help",
      normal "\n  ", literal "-V", normal ", ", literal "--version",
      normal "  Print version\n"]

def sendSummaryPage : Styled :=
  [normal (aboutSend ++ "\n\n")] ++ Usage.send.styled
    ++ [normal "\n\n", headingSpan "Arguments:",
      normal "\n  <PEER_ID>  Identifier of the destination peer",
      normal "\n  <DATA>     Payload sent to the peer",
      normal "\n\n", headingSpan "Options:",
      normal "\n      ", literal "--topic", normal (" <TOPIC>            " ++ aboutTopic),
      normal "\n  ", literal "-H", normal ", ", literal "--header",
      normal " <HEADERS>         ",
      normal "\n      ", literal "--timeout-ms", normal (" <TIMEOUT_MS>  " ++ aboutTimeout),
      normal "\n  ", literal "-h", normal ", ", literal "--help",
      normal "                     Print help (see more with '--help')\n"]

def sendPage : Styled :=
  [normal (aboutSend ++ "\n\n## Examples:\n\n"),
    normal "```bash reqresp http://localhost:50051 send 12D3KooW... 'hello' --topic greetings ```",
    normal "\n\n"] ++ Usage.send.styled
    ++ [normal "\n\n", headingSpan "Arguments:",
      normal "\n  <PEER_ID>\n          Identifier of the destination peer\n",
      normal "\n  <DATA>\n          Payload sent to the peer",
      normal "\n\n", headingSpan "Options:",
      normal "\n      ", literal "--topic", normal (" <TOPIC>\n          " ++ aboutTopic ++ "\n"),
      normal "\n  ", literal "-H", normal ", ", literal "--header",
      normal " <HEADERS>\n          \n",
      normal "\n      ", literal "--timeout-ms",
      normal (" <TIMEOUT_MS>\n          " ++ aboutTimeout ++ "\n"),
      normal "\n  ", literal "-h", normal ", ", literal "--help",
      normal "\n          Print help (see a summary with '-h')\n"]

def helpPage : Styled :=
  [normal (aboutHelp ++ "\n\n")] ++ Usage.help.styled
    ++ [normal "\n\n", headingSpan "Arguments:",
      normal "\n  [COMMAND]...  Print help for the subcommand(s)\n"]

def styled : Page → Styled
  | .program => programPage
  | .sendSummary => sendSummaryPage
  | .send => sendPage
  | .help => helpPage

end Page

end Courier.CommandLine
