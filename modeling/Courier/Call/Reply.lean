import Courier.Call.Messages
import Courier.Call.Status
import Courier.Wire.Schema

/-!
# Replies

What a client makes of the answer to its call. The headers may already say how the call ended; if
they do not, the trailers have to. The first message of the body is the reply, and the body is
read to its end before it counts.
-/

namespace Courier

open Http (Headers)

/-! ## How the call ended -/

/-- The status that an HTTP status stands for when nothing else tells how the call ended. -/
def inferredStatus (httpStatus : Nat) : Status :=
  let code : Code :=
    match httpStatus with
    | 400 => .internal
    | 401 => .unauthenticated
    | 403 => .permissionDenied
    | 404 => .unimplemented
    | 429 | 502 | 503 | 504 => .unavailable
    | _ => .unknown
  if httpStatus = 200 then
    { code := .unknown
      message := "protocol error: missing grpc-status trailer, stream was terminated without a "
        ++ "final status (possible truncation by a proxy or load balancer)" }
  else
    { code
      message := "grpc-status header missing, mapped from HTTP status code "
        ++ toString httpStatus }

/-- What the end of a body says. A response that has not yet told how the call ended does so in
its trailers. -/
def Reading.close (reading : Reading) (trailers : Option Headers) : Outcome Unit :=
  match reading with
  | .request | .settled => .ok ()
  | .response httpStatus =>
    match Status.read (trailers.getD {}) with
    | .error crash => .error (.crashed crash)
    | .ok none => .error (.failed (inferredStatus httpStatus))
    | .ok (some status) => if status.code = .ok then .ok () else .error (.failed status)

/-! ## Reading a response -/

namespace Http.Response

/-- How the body is read, by what the headers say. -/
def reading (r : Response) : Outcome Reading :=
  match encodingFault? r.headers with
  | some status => .error (.failed status)
  | none =>
    match Status.read r.headers with
    | .error crash => .error (.crashed crash)
    | .ok none => .ok (.response r.status)
    | .ok (some status) => if status.code = .ok then .ok .settled else .error (.failed status)

/-- The first message of a response with the rest of its body, or nothing if the body ends before
it and all went well. -/
def firstMessage (r : Response) (reading : Reading) : Outcome (Option (Wire.Response × Stream)) :=
  match Stream.next reading { body := r.body } with
  | .error status => .error (.failed status)
  | .ok (.ended trailers) =>
    match reading.close trailers with
    | .error e => .error e
    | .ok () => .ok none
  | .ok (.message message rest) => .ok (some (message, rest))

/-- The message of a response whose body is read as `reading` says. A failure before the message
carries the headers of the response; one after it does not. The headers of a response with a message
take up its trailers. -/
def bodyMessage (r : Response) (reading : Reading) : Outcome Wire.Response :=
  match (r.firstMessage reading).mergeFailure r.headers with
  | .error e => .error e
  | .ok none => .fail .internal "Missing response message."
  | .ok (some (message, rest)) =>
    match rest.drain Wire.Response reading with
    | .error status => .error (.failed status)
    | .ok trailers =>
      match reading.close trailers with
      | .error e => .error e
      | .ok () =>
        if r.headers.fits (trailers.getD {}) then .ok message else .error (.crashed .headersFull)

/-- The message of a response. -/
def message (r : Response) : Outcome Wire.Response :=
  match r.reading with
  | .error e => .error e
  | .ok reading => r.bodyMessage reading

/-- The reply that a response carries. -/
def reply (r : Response) : Outcome String :=
  match r.message with
  | .error e => .error e
  | .ok { data := some payload } => .ok payload.data
  | .ok { data := none } => .fail .internal "Malformed response: missing payload"

end Http.Response

/-- What a transport does with a call. -/
inductive Reply where
  /-- It never becomes ready to take the call. -/
  | notReady (cause : Failure)
  /-- It takes the call and fails. -/
  | failure (cause : Failure)
  | response (r : Http.Response)

/-- The outcome of a call that the transport took. -/
def Reply.outcome : Reply → Outcome String
  | .notReady cause => .fail .unknown ("Service was not ready: " ++ cause.describe)
  | .failure cause => .error (.failed cause.toStatus)
  | .response r => r.reply

end Courier
