import Courier.Call.Frame

/-!
# Reading the messages of a body

`Stream.next` reads a message or comes to the end of the body, and `Stream.drain` reads to the
end. No body may be encoded.
-/

namespace Courier

open Http (Headers)

/-! ## Encodings -/

/-- The value of an encoding header as a reader is shown it. -/
def showEncoding (value : Bytes) : String :=
  match value.text? with
  | some s => s
  | none => "[" ++ ", ".intercalate (value.map fun b => toString b.toNat) ++ "]"

/-- The refusal of a body that is encoded in any way. -/
def encodingFault? (headers : Headers) : Option Status :=
  match headers.get? "grpc-encoding" with
  | none => none
  | some value =>
    if value = utf8 "identity" then none
    else
      some
        { code := .unimplemented
          message := "Content is compressed with `" ++ showEncoding value
            ++ "` which isn't supported"
          metadata := .ofList [("grpc-accept-encoding", utf8 "identity")] }

/-! ## Messages -/

/-- What comes next in a body. -/
inductive Next (α : Type) where
  | message (a : α) (rest : Stream)
  | ended (trailers : Option Headers)

namespace Stream

/-- Reads the next message or comes to the end. -/
def next {α : Type} [Wire.Record α] (reading : Reading) (s : Stream) : Except Status (Next α) :=
  match s.pull reading with
  | .failed status => .error status
  | .finished trailers => .ok (.ended trailers)
  | .message bytes rest =>
    match Wire.Record.decode bytes with
    | .error fault => .error { code := .internal, message := fault.message }
    | .ok a => .ok (.message a rest)

theorem size_next_lt {α : Type} [Wire.Record α] {reading : Reading} {s rest : Stream} {a : α}
    (h : s.next reading = .ok (.message a rest)) : rest.size < s.size := by
  unfold next at h
  split at h
  · cases h
  · cases h
  · next pulled =>
    split at h
    · cases h
    · cases h
      exact size_pull_lt pulled

/-- Reads messages to the end, for the trailers there. -/
def drain (α : Type) [Wire.Record α] (reading : Reading) (s : Stream) :
    Except Status (Option Headers) :=
  match _ : (s.next reading : Except Status (Next α)) with
  | .error status => .error status
  | .ok (.ended trailers) => .ok trailers
  | .ok (.message _ rest) => drain α reading rest
termination_by s.size
decreasing_by
  rename_i step
  exact size_next_lt step

end Stream

end Courier
