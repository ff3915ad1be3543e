import Courier.Call.Options
import Courier.Call.Reply
import Courier.Request

/-!
# Sending a request

One call over a transport: the deadline is written, the transport has to be ready, the request is
framed and handed over, and what comes back is read.
-/

namespace Courier

open Http (Headers)

/-- Where the service takes its calls. -/
def servicePath : String := "/script.ReqResp/Send"

/-- The body of a request with one message. A message that cannot be framed breaks it off. -/
def requestBody (message : Bytes) : List BodyFrame :=
  match framingFault? message with
  | some status => [.failure (.status status)]
  | none => [.data (frameMessage message)]

/-- The HTTP request of a call whose metadata are `metadata`. -/
def Request.toHttp (r : Request) (metadata : Headers) : Except Crash Http.Request :=
  match callHeaders metadata with
  | .error crash => .error crash
  | .ok headers =>
    .ok
      { path := servicePath
        headers
        body := requestBody (Wire.Record.encode r.toWire) }

/-- The trace of a call: the request that the transport took, if it took one, and the outcome. -/
structure Exchange where
  sent : Option Http.Request
  outcome : Outcome String

/-- A request and what a caller says about it. -/
structure Call where
  request : Request
  options : Options := {}
  deriving DecidableEq

namespace Call

/-- The HTTP request that a call hands to its transport. -/
def toHttp (c : Call) : Except Crash Http.Request :=
  match c.options.metadata with
  | .error crash => .error crash
  | .ok metadata => c.request.toHttp metadata

/-- Performs a call over a transport that answers as `reply` says. -/
def perform (c : Call) (reply : Reply) : Exchange :=
  match c.options.metadata, reply with
  | .error crash, _ => { sent := none, outcome := .error (.crashed crash) }
  | .ok _, .notReady cause => { sent := none, outcome := (Reply.notReady cause).outcome }
  | .ok metadata, reply =>
    match c.request.toHttp metadata with
    | .error crash => { sent := none, outcome := .error (.crashed crash) }
    | .ok request => { sent := some request, outcome := reply.outcome }

end Call

end Courier
