import Courier.Crash
import Courier.Deadline
import Courier.Http.Headers

/-!
# Call options

What a caller may say about a call besides its request: a deadline and headers. A header replaces
an earlier one of its name. `Options.metadata` is what becomes of them when the call is made and
`sentHeaders` is what the transport is given.
-/

namespace Courier

open Http (Headers)

/-- Why a header is refused. -/
inductive HeaderFault where
  | invalidKey (key : String)
  | invalidValue (key : String)
  /-- The header map has no room for another name. -/
  | noRoom
  deriving DecidableEq

namespace HeaderFault

/-- What is wrong, without saying where. -/
def reason : HeaderFault → String
  | .invalidKey _ => "invalid gRPC metadata key name"
  | .invalidValue _ => "failed to parse metadata value"
  | .noRoom => Crash.headersFull.message

def message : HeaderFault → String
  | .invalidKey key =>
    "Invalid metadata (header) key '" ++ key ++ "': '" ++ (invalidKey key).reason ++ "'"
  | .invalidValue key =>
    "Invalid metadata (header) value for key '" ++ key ++ "': '" ++ (invalidValue key).reason
      ++ "'"
  | .noRoom => noRoom.reason

end HeaderFault

/-- What a caller says about a call. -/
structure Options where
  timeout : Option Duration := none
  headers : Headers := {}
  deriving DecidableEq

namespace Options

/-- The name and the value that a header is kept under, if it is accepted. The key is judged
first. -/
def header (key value : String) : Except HeaderFault (String × Bytes) :=
  match metadataName? key with
  | none => .error (.invalidKey key)
  | some name =>
    if Http.isHeaderValue value then .ok (name, utf8 value) else .error (.invalidValue key)

/-- With a header. -/
def withHeader (o : Options) (key value : String) : Except HeaderFault Options :=
  match header key value with
  | .error fault => .error fault
  | .ok (name, bytes) =>
    if o.headers.isFull then .error .noRoom
    else .ok { o with headers := o.headers.insert name bytes }

/-- With a deadline. -/
def withTimeout (o : Options) (d : Duration) : Options := { o with timeout := some d }

/-- With every header of a list, unless one is refused. -/
def withHeaders (o : Options) : List (String × String) → Except HeaderFault Options
  | [] => .ok o
  | (key, value) :: rest =>
    match o.withHeader key value with
    | .error fault => .error fault
    | .ok o => o.withHeaders rest

/-! ## On the wire -/

def timeoutHeader : String := "grpc-timeout"

/-- The headers of the caller and the text of the deadline. -/
def metadata (o : Options) : Except Crash Headers :=
  match o.timeout with
  | none => .ok o.headers
  | some d =>
    match d.deadline? with
    | none => .error .deadlineTooLong
    | some text => o.headers.insert? timeoutHeader (utf8 text)

end Options

def contentTypeHeader : String := "content-type"

/-- The content type of both directions. -/
def contentType : Bytes := utf8 "application/grpc"

/-- The headers of a call whose metadata are `metadata`. -/
def callHeaders (metadata : Headers) : Except Crash Headers :=
  match metadata.sanitized.insert? "te" (utf8 "trailers") with
  | .error crash => .error crash
  | .ok headers => headers.insert? contentTypeHeader contentType

/-- The headers that a call with these options is sent with. -/
def Options.sentHeaders (o : Options) : Except Crash Headers :=
  match o.metadata with
  | .error crash => .error crash
  | .ok metadata => callHeaders metadata

end Courier
