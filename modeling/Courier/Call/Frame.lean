import Courier.Call.Exchange
import Courier.Wire.Record

/-!
# Messages in a body

Each message of a body has five bytes in front: a flag, which is zero, and the length of the
message. The bytes come in frames that begin and end anywhere. `Stream.pull` takes the next
message as soon as its bytes are there; `Stream.drain` reads what follows to the end.
-/

namespace Courier

open Http (Headers)

/-- Whose body is read. -/
inductive Reading where
  | request
  /-- A response that has yet to say how the call ended. -/
  | response (httpStatus : Nat)
  /-- A response whose headers said so already. -/
  | settled
  deriving DecidableEq

/-- The length that a message may have. -/
def messageLimit : Nat := 4194304

/-- A message with its length in front. -/
def frameMessage (message : Bytes) : Bytes :=
  let n := message.length
  [0, UInt8.ofNat (n / 16777216), UInt8.ofNat (n / 65536), UInt8.ofNat (n / 256), UInt8.ofNat n]
    ++ message

/-- The length of the longest message that the bytes in front can announce. -/
def frameLimit : Nat := 4294967295

/-- Why a message cannot be framed. -/
def framingFault? (message : Bytes) : Option Status :=
  if frameLimit < message.length then
    some
      { code := .resourceExhausted
        message := "Cannot return body with more than 4GB of data but got "
          ++ toString message.length ++ " bytes" }
  else none

/-- A number written in four bytes, the largest place first. -/
def bigEndian (a b c d : UInt8) : Nat :=
  a.toNat * 16777216 + b.toNat * 65536 + c.toNat * 256 + d.toNat

namespace Reading

/-- Checks what stands in front of a message, the flag before the length. -/
def frameFault? (reading : Reading) (flag : UInt8) (length : Nat) : Option Status :=
  if flag = 1 then
    some
      { code := .internal
        message := "protocol error: received message with compressed-flag but no "
          ++ "grpc-encoding was specified" }
  else if flag ≠ 0 then
    let place :=
      match reading with
      | .response n => " while receiving response with status: " ++ Http.describeStatus n
      | .request | .settled => ", while sending request"
    some
      { code := .internal
        message := "protocol error: received message with invalid compression flag: "
          ++ toString flag.toNat ++ " (valid flags are 0 and 1)" ++ place }
  else if messageLimit < length then
    some
      { code := .outOfRange
        message := "Error, decoded message length too large: found " ++ toString length
          ++ " bytes, the limit is: " ++ toString messageLimit ++ " bytes" }
  else none

end Reading

/-- The bytes received and not yet used. -/
structure Buffer where
  /-- The length of the message that is awaited, once it is known. -/
  awaited : Option Nat := none
  bytes : Bytes := []
  deriving DecidableEq

namespace Buffer

/-- Appends a frame of data. -/
def push (b : Buffer) (bytes : Bytes) : Buffer := { b with bytes := b.bytes ++ bytes }

/-- Takes an awaited message, if all of its bytes are there. -/
def takeBody (n : Nat) (bytes : Bytes) : Option Bytes × Buffer :=
  if bytes.atLeast n then (some (bytes.take n), { bytes := bytes.drop n })
  else (none, { awaited := some n, bytes })

/-- Takes a message, if all of its bytes are there. -/
def take (reading : Reading) (b : Buffer) : Except Status (Option Bytes × Buffer) :=
  match b.awaited, b.bytes with
  | some n, bytes => .ok (takeBody n bytes)
  | none, flag :: l₁ :: l₂ :: l₃ :: l₄ :: bytes =>
    match reading.frameFault? flag (bigEndian l₁ l₂ l₃ l₄) with
    | some fault => .error fault
    | none => .ok (takeBody (bigEndian l₁ l₂ l₃ l₄) bytes)
  | none, _ => .ok (none, b)

/-- The bytes in the buffer; a message that is awaited counts as one more. -/
def size (b : Buffer) : Nat := b.bytes.length + b.awaited.toList.length

theorem size_push (b : Buffer) (bytes : Bytes) : (b.push bytes).size = b.size + bytes.length := by
  simp [push, size, Nat.add_right_comm]

theorem size_takeBody (n : Nat) (bytes : Bytes) :
    (takeBody n bytes).2.size + (takeBody n bytes).1.toList.length ≤ bytes.length + 1 := by
  unfold takeBody
  split <;> simp [size]

/-- Taking never adds to the buffer, and a message uses up part of it. -/
theorem size_take {reading : Reading} {b rest : Buffer} {message : Option Bytes}
    (h : b.take reading = .ok (message, rest)) :
    rest.size + message.toList.length ≤ b.size := by
  unfold take at h
  split at h
  · next n awaited =>
    have bound := size_takeBody n b.bytes
    rw [Except.ok.inj h] at bound
    simpa [size, awaited] using bound
  · next flag l₁ l₂ l₃ l₄ bytes awaited whole =>
    split at h
    · cases h
    · have bound := size_takeBody (bigEndian l₁ l₂ l₃ l₄) bytes
      rw [Except.ok.inj h] at bound
      dsimp only at bound
      have : b.size = bytes.length + 5 := by simp [size, awaited, whole]
      omega
  · cases h
    simp

end Buffer

/-- A body in the course of being read. -/
structure Stream where
  buffer : Buffer := {}
  body : List BodyFrame

namespace Stream

/-- How reading goes on. -/
inductive Step where
  | message (bytes : Bytes) (rest : Stream)
  | finished (trailers : Option Headers)
  | failed (status : Status)

/-- A body ended within a message. -/
def unexpectedEnd : Status := { code := .internal, message := "Unexpected EOF decoding stream." }

/-- Reads on with `buffer` when more of the body has to come. A client that gives up ends its
request. -/
def pullFrom (reading : Reading) (buffer : Buffer) (body : List BodyFrame) : Step :=
  match buffer.take reading with
  | .error status => .failed status
  | .ok (some message, buffer) => .message message { buffer, body }
  | .ok (none, buffer) =>
    match body with
    | [] => if buffer.bytes = [] then .finished none else .failed unexpectedEnd
    | .data bytes :: body => pullFrom reading (buffer.push bytes) body
    | .trailers headers :: _ => .finished (some headers)
    | .failure cause :: _ =>
      if reading = .request ∧ cause.toStatus.code = .cancelled then .finished none
      else .failed cause.toStatus

/-- Reads the next message. -/
def pull (reading : Reading) (s : Stream) : Step := pullFrom reading s.buffer s.body

/-- The bytes that a body may still bring. -/
def bodySize : List BodyFrame → Nat
  | [] => 0
  | .data bytes :: body => bytes.length + bodySize body
  | .trailers _ :: body => bodySize body
  | .failure _ :: body => bodySize body

def size (s : Stream) : Nat := s.buffer.size + bodySize s.body

theorem size_pullFrom_lt {reading : Reading} {buffer : Buffer} {body : List BodyFrame}
    {message : Bytes} {rest : Stream}
    (h : pullFrom reading buffer body = .message message rest) :
    rest.size < buffer.size + bodySize body := by
  fun_induction pullFrom reading buffer body with
  | case1 => cases h
  | case2 buffer body message buffer' taken =>
    cases h
    have bound := Buffer.size_take taken
    simp only [Option.toList_some, List.length_singleton] at bound
    simp only [size]
    omega
  | case3 => cases h
  | case4 => cases h
  | case5 buffer buffer' taken bytes body ih =>
    have bound := Buffer.size_take taken
    have smaller := ih h
    rw [Buffer.size_push] at smaller
    rw [bodySize]
    simp only [Option.toList_none, List.length_nil] at bound
    omega
  | case6 => cases h
  | case7 => cases h
  | case8 => cases h

/-- A message uses up part of what is left. -/
theorem size_pull_lt {reading : Reading} {s rest : Stream} {message : Bytes}
    (h : s.pull reading = .message message rest) : rest.size < s.size := size_pullFrom_lt h

end Stream

end Courier
