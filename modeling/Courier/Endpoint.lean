import Courier.Call.Status
import Courier.Http.Uri
import Courier.Socket

/-!
# Endpoints

Where a server listens: an address, or a socket of the machine. `Endpoint.ofUrl` reads it from a
URL. Connecting at once may fail; a connection that is only made by the first call lets
that call fail instead.
-/

namespace Courier

inductive Endpoint where
  | uri (u : Http.Uri)
  | socket (address : String)
  deriving DecidableEq

/-- Why there is no connection. -/
inductive ConnectFault where
  | invalidUrl (url : String) (fault : Http.Uri.Fault)
  | failed (url : String)
  deriving DecidableEq

namespace ConnectFault

/-- All that a reader is told about a failure on the way to the server. -/
def transportError : String := "transport error"

def message : ConnectFault → String
  | .invalidUrl url _ => "Invalid URL '" ++ url ++ "': " ++ transportError
  | .failed url => "Failed to connect to '" ++ url ++ "': " ++ transportError

/-- The texts of the causes, outermost first. -/
def causes : ConnectFault → List String
  | .invalidUrl _ fault => [transportError, "invalid URI", fault.message]
  | .failed _ => [transportError]

end ConnectFault

namespace Endpoint

def socketScheme : String := "unix:"

/-- The address of a socket behind its scheme, with or without two slashes before it. -/
def socketAddress : List Char → List Char
  | '/' :: '/' :: address => address
  | address => address

/-- The endpoint of a URL. The address of a socket is not looked at. -/
def ofUrl (url : String) : Except ConnectFault Endpoint :=
  if socketScheme.toList.isPrefixOf url.toList then
    .ok (.socket (String.ofList (socketAddress (url.toList.drop socketScheme.length))))
  else
    match Http.Uri.parse url with
    | .ok u => .ok (.uri u)
    | .error fault => .error (.invalidUrl url fault)

/-- Connects to the endpoint of a URL, where `listening` says which endpoints have a server. -/
def connect (listening : Endpoint → Bool) (url : String) : Except ConnectFault Endpoint :=
  match ofUrl url with
  | .error fault => .error fault
  | .ok endpoint => if listening endpoint then .ok endpoint else .error (.failed url)

/-- Why a call to an endpoint fails where nothing listens, on a machine with some files. There is no
one to ask for the address of a name. -/
def refusal (files : FileTree) : Endpoint → Failure
  | .uri { scheme := none, .. } => .because ConnectFault.transportError
  | .uri u =>
    unavailable (if u.address?.isSome then "tcp connect error" else "dns error")
  | .socket address => unavailable (Socket.fault files address).message
where
  unavailable (message : String) : Failure := .status { code := .unavailable, message }

end Endpoint

end Courier
