import Courier.Endpoint
import Courier.Log.Event
import Courier.Text.Characters

/-!
# What connecting logs

The channel to a server logs its states, and the connector beneath it the address that it tries.
`Endpoint.failureEvents` are the events of an attempt that fails.
-/

namespace Courier

namespace Log

def channelTarget : String := "tonic::transport::channel::service::reconnect"

def connectorTarget : String := "hyper_util::client::legacy::connect::http"

/-- A state of the channel. -/
def channelEvent (state : String) : Event :=
  { level := .trace, target := channelTarget, message := "poll_ready; " ++ state }

/-- A value that may be missing. -/
def optionText {α : Type} (write : α → String) : Option α → String
  | none => "None"
  | some a => "Some(" ++ write a ++ ")"

/-- The parts of an address that is tried. -/
def partsEvent (u : Http.Uri) : Event :=
  { level := .trace
    target := connectorTarget
    message :=
      "Http::connect; scheme=" ++ optionText Text.quoted (u.scheme.map Http.Uri.schemeName)
        ++ ", host=" ++ optionText Text.quoted u.host?
        ++ ", port=" ++ optionText (fun n => "Port(" ++ toString n ++ ")") u.service? }

/-- What the system says about an address where there is no network: there is no way to an address
of four bytes or of a group of machines, no address of this machine goes with another one, and one
for linked machines is nothing without its network. -/
def networkFault (address : Address) : String :=
  let (code, kind, text) := match address with
    | .v4 _ => unreachable
    | .v6 groups zone =>
      if Address.isMulticast groups ∨ (Address.mapped? groups).isSome then unreachable
      else if Address.isLinkLocal groups ∧ zone = 0 then ("22", "InvalidInput", "Invalid argument")
      else ("99", "AddrNotAvailable", "Cannot assign requested address")
  "Os \x7b code: " ++ code ++ ", kind: " ++ kind ++ ", message: " ++ Text.quoted text ++ " \x7d"
where
  unreachable : String × String × String :=
    ("101", "NetworkUnreachable", "Network is unreachable")

/-- The attempt to reach a service of a machine, and its end. -/
def addressEvents (address : Address) (service : Nat) : List Event :=
  let text := address.text service
  [{ level := .debug, target := connectorTarget, message := "connecting to " ++ text },
    { level := .trace
      target := connectorTarget
      message :=
        "connect error for " ++ text ++ ": ConnectError(\"tcp connect error\", "
          ++ networkFault address ++ ")" }]

end Log

namespace Endpoint

/-- What the connector does for an address. Without a scheme nothing is tried, and the channel waits
while a host is looked up. -/
def connectorEvents (u : Http.Uri) : List Log.Event :=
  match u.scheme with
  | none => []
  | some _ =>
    let waiting :=
      if u.bareHost?.any Address.isPlain then []
      else [Log.channelEvent "not ready", Log.channelEvent "connecting"]
    waiting ++ (match u.address? with
      | some address => Log.addressEvents address u.serviceOrStandard
      | none => [])

/-- The events of an attempt to connect that fails. -/
def failureEvents (e : Endpoint) : List Log.Event :=
  let attempt := match e with
    | .uri u => Log.partsEvent u :: connectorEvents u
    | .socket _ => []
  [Log.channelEvent "idle", Log.channelEvent "connecting"] ++ attempt
    ++ [Log.channelEvent "error"]

/-- The events of an attempt to connect to a URL, where `listening` says which endpoints have a
server. -/
def attemptEvents (listening : Endpoint → Bool) (url : String) : List Log.Event :=
  match ofUrl url with
  | .error _ => []
  | .ok endpoint => if listening endpoint then [] else endpoint.failureEvents

end Endpoint

end Courier
