import Courier.Call.Code
import Courier.Crash
import Courier.Http.Headers
import Courier.Text.Characters
import Courier.Text.Percent
import Courier.Text.Utf8

/-!
# Statuses

A status is how a call ended. It travels in three headers: the number of the code, the message in
percent encoding and the details in base64. `Status.read` takes it out of a header map,
`Status.write` adds them to one.

A call fails with a status, or it crashes. A transport fails with a chain of causes;
`Failure.toStatus` is the status to report: the one found in the chain, or else an unknown status
with the text of the outermost cause.
-/

namespace Courier

open Http (Headers)

structure Status where
  code : Code
  message : String := ""
  details : Bytes := []
  metadata : Headers := {}
  deriving DecidableEq

namespace Status

def codeHeader : String := "grpc-status"
def messageHeader : String := "grpc-message"
def detailsHeader : String := "grpc-status-details-bin"

/-- The text of a status as a cause of something else. -/
def describe (s : Status) : String :=
  "code: '" ++ s.code.description ++ "'"
    ++ (if s.message = "" then "" else ", message: " ++ Text.quoted s.message)

/-- The same status, its metadata replaced by those of `headers` where both have a name. -/
def merge (s : Status) (headers : Headers) : Status :=
  { s with metadata := s.metadata.extend headers }

/-! ## Reading -/

/-- The message of a status: percent encoding undone, and the text that the bytes spell. -/
def readMessage (headers : Headers) : Except Text.Utf8.Fault String :=
  match headers.get? messageHeader with
  | none => .ok ""
  | some value =>
    let bytes := Text.Percent.decode value
    match bytes.text? with
    | some s => .ok s
    | none => .error ((Text.Utf8.fault? bytes).getD { offset := 0, width := none })

def readDetails (headers : Headers) : Except Crash Bytes :=
  match headers.get? detailsHeader with
  | none => .ok []
  | some value =>
    match Text.Base64.decode value with
    | .ok details => .ok details
    | .error fault => .error (.malformedDetails fault)

/-- The status that a header map holds, if it holds one. A message that is no text makes the code
unknown. What is not part of the status becomes its metadata. -/
def read (headers : Headers) : Except Crash (Option Status) :=
  match headers.get? codeHeader with
  | none => .ok none
  | some code =>
    match readDetails headers with
    | .error crash => .error crash
    | .ok details =>
      let metadata :=
        ((headers.erase codeHeader).erase messageHeader).erase detailsHeader
      match readMessage headers with
      | .ok message => .ok (some { code := Code.ofBytes code, message, details, metadata })
      | .error fault =>
        let message := "Error deserializing status message header: " ++ fault.message
        .ok (some { code := .unknown, message, details, metadata })

/-! ## Writing -/

/-- The headers of a status. A part that is empty has no header. -/
def entries (s : Status) : List (String × Bytes) :=
  (codeHeader, s.code.toBytes)
    :: (if s.message = "" then []
      else [(messageHeader, Text.Percent.encode (utf8 s.message))])
    ++ (if s.details = [] then [] else [(detailsHeader, Text.Base64.encode s.details)])

/-- The headers of a status, added to `headers` behind its metadata. -/
def write (s : Status) (headers : Headers) : Headers :=
  (headers.extend s.metadata.sanitized).insertAll s.entries

/-- Whether all that is written of a status finds room in `headers`. -/
def hasRoom (s : Status) (headers : Headers) : Bool :=
  headers.fits s.metadata.sanitized
    && (headers.extend s.metadata.sanitized).takes Headers.insertEntry s.entries

end Status

/-! ## Outcomes of calls -/

inductive CallError where
  | failed (status : Status)
  | crashed (crash : Crash)
  deriving DecidableEq

/-- What is shown of a call that went wrong. The message of a status is shown as it is. -/
def CallError.display : CallError → String
  | .failed status => status.message
  | .crashed crash => crash.message

/-- What a call gives back. -/
abbrev Outcome (α : Type) := Except CallError α

namespace Outcome

def fail {α : Type} (code : Code) (message : String) : Outcome α :=
  .error (.failed { code, message })

/-- Adds headers to the metadata of a failure. One map has to hold both. -/
def mergeFailure {α : Type} (outcome : Outcome α) (headers : Http.Headers) : Outcome α :=
  match outcome with
  | .error (.failed status) =>
    if status.metadata.fits headers then .error (.failed (status.merge headers))
    else .error (.crashed .headersFull)
  | outcome => outcome

end Outcome

/-! ## Failures of the transport -/

/-- Why the transport failed. -/
inductive Failure where
  /-- A cause of which only the text is known. -/
  | because (text : String)
  | status (s : Status)
  /-- A cause around another one, with a text of its own. -/
  | wrapped (text : String) (inner : Failure)

namespace Failure

/-- The text of the outermost cause. -/
def describe : Failure → String
  | because text => text
  | status s => s.describe
  | wrapped text _ => text

/-- The status in the chain. -/
def status? : Failure → Option Status
  | because _ => none
  | status s => some s
  | wrapped _ inner => inner.status?

/-- The status to report. -/
def toStatus (f : Failure) : Status :=
  match f.status? with
  | some s => s
  | none => { code := .unknown, message := f.describe }

end Failure

end Courier
