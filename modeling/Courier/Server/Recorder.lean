import Courier.Call.Messages
import Courier.Call.Send

/-!
# The recording server

A server that keeps every request it decodes and answers by peer. `receive` reads a raw HTTP
request, `respond` chooses the answer and `Recorder.serve` does both and keeps the log. A request
whose trailers find no room among its headers makes the server crash before it is recorded, and so
does a refusal that finds no room in the headers of an answer.
-/

namespace Courier

open Http (Headers)

/-- What a recording server has received, oldest first. -/
structure Recorder where
  log : List Wire.SendRequest := []
  deriving DecidableEq

/-! ## Receiving -/

/-- A decoded request with what was sent along with it. -/
structure Received where
  message : Wire.SendRequest
  headers : Headers
  trailers : Option Headers := none

/-- The trailers of a request count as headers. -/
def Received.metadata (r : Received) : Headers := r.headers.extend (r.trailers.getD {})

/-- Whether the headers take up the trailers. Without trailers there is nothing to take up. -/
def Received.fits (r : Received) : Bool := r.trailers.all r.headers.fits

/-- Reads a raw request: one message, and then the body to its end. -/
def Http.Request.receive (r : Http.Request) : Except Status Received :=
  match encodingFault? r.headers with
  | some status => .error status
  | none =>
    match Stream.next .request { body := r.body } with
    | .error status => .error status
    | .ok (.ended _) => .error { code := .internal, message := "Missing request message." }
    | .ok (.message message rest) =>
      match rest.drain Wire.SendRequest .request with
      | .error status => .error status
      | .ok trailers => .ok { message, headers := r.headers, trailers }

/-! ## Answering -/

/-- The peer of a request; a request without one has the empty peer. -/
def Wire.SendRequest.peerId (r : SendRequest) : String := (r.peer.map (·.peerId)).getD ""

/-- The data of a request; a request without any has the empty data. -/
def Wire.SendRequest.text (r : SendRequest) : String :=
  ((r.msg.bind (·.data)).map (·.data)).getD ""

/-- The trace that metadata carry, if it is visible text. -/
def traceText (metadata : Headers) : String :=
  ((metadata.get? "x-trace").bind Http.visibleText?).getD ""

/-- The answer to a request. Three peers are special. -/
def Received.respond (r : Received) : Except Status Wire.Response :=
  if r.message.peerId = "unreachable" then .error { code := .unavailable, message := "boom" }
  else if r.message.peerId = "silent" then .ok { data := none }
  else if r.message.peerId = "headers" then .ok { data := some { data := traceText r.metadata } }
  else .ok { data := some { data := r.message.text } }

/-! ## Over HTTP -/

/-- The headers that every answer begins with. -/
def answerHeaders : Headers := .ofList [(contentTypeHeader, contentType)]

/-- An answer that ends in its headers. -/
def failureResponse (status : Status) : Http.Response := { headers := status.write answerHeaders }

/-- The body of an answer that holds a message. A message that cannot be framed leaves only the
trailers, and these say so. -/
def responseBody (message : Bytes) : List BodyFrame :=
  match framingFault? message with
  | some status => [.trailers (status.write {})]
  | none =>
    [.data (frameMessage message), .trailers (.ofList [(Status.codeHeader, Code.ok.toBytes)])]

/-- An answer that holds a message. -/
def messageResponse (message : Wire.Response) : Http.Response :=
  { headers := answerHeaders
    body := responseBody (Wire.Record.encode message) }

/-- The answer to a call of a method that the server does not have. -/
def unknownMethodResponse : Http.Response :=
  { headers :=
      .ofList
        [(contentTypeHeader, contentType), (Status.codeHeader, Code.unimplemented.toBytes)] }

/-- What an answer looks like over HTTP. -/
def answerResponse : Except Status Wire.Response → Http.Response
  | .error status => failureResponse status
  | .ok message => messageResponse message

/-- The answer to a raw request. -/
def Http.Request.answer (r : Http.Request) : Http.Response :=
  if r.path = servicePath then
    match r.receive with
    | .error status => failureResponse status
    | .ok received => answerResponse received.respond
  else unknownMethodResponse

/-- The crash of the server over a raw request. -/
def Http.Request.crash? (r : Http.Request) : Option Crash :=
  if r.path = servicePath then
    match r.receive with
    | .error status => if status.hasRoom answerHeaders then none else some .headersFull
    | .ok received => if received.fits then none else some .headersFull
  else none

/-- What comes of a raw request. -/
def Http.Request.result (r : Http.Request) : Except Crash Http.Response :=
  match r.crash? with
  | some crash => .error crash
  | none => .ok r.answer

/-- What is recorded of a raw request. -/
def Http.Request.recorded? (r : Http.Request) : Option Wire.SendRequest :=
  if r.path = servicePath then
    match r.receive with
    | .error _ => none
    | .ok received => if received.fits then some received.message else none
  else none

namespace Recorder

/-- The server after a raw request. -/
def receive (server : Recorder) (r : Http.Request) : Recorder :=
  { log := server.log ++ r.recorded?.toList }

/-- Takes raw requests in order: the server afterwards, and for each what came of it with the number
of requests recorded so far. -/
def serve (server : Recorder) :
    List Http.Request → Recorder × List (Except Crash Http.Response × Nat)
  | [] => (server, [])
  | r :: rest =>
    let after := server.receive r
    let (last, answers) := after.serve rest
    (last, (r.result, after.log.length) :: answers)

end Recorder

end Courier
