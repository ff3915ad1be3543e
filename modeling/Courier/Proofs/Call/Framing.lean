import Courier.Call.Messages

/-!
# Messages and the frames around them

A message that was framed is taken out of a buffer again, and what stands behind it stays there.
`pull_frame` is that fact for a body whose first frame of data is one framed message: it is the
message that a stream gives next, whoever reads, and the rest of the body is still to come.
-/

namespace Courier

/-! ## Lengths -/

/-- Four bytes hold every length of 32 bits. -/
theorem bigEndian_ofNat {n : Nat} (small : n < 0x100000000) :
    bigEndian (UInt8.ofNat (n / 16777216)) (UInt8.ofNat (n / 65536)) (UInt8.ofNat (n / 256))
      (UInt8.ofNat n) = n := by
  simp only [bigEndian, UInt8.toNat_ofNat']
  omega

/-- A framed message is a zero byte, its length and its bytes. -/
theorem frameMessage_eq (message : Bytes) (small : message.length < 0x100000000) :
    ∃ l₁ l₂ l₃ l₄, frameMessage message = 0 :: l₁ :: l₂ :: l₃ :: l₄ :: message ∧
      bigEndian l₁ l₂ l₃ l₄ = message.length :=
  ⟨_, _, _, _, rfl, bigEndian_ofNat small⟩

/-- Frames are equal only around equal messages. -/
theorem frameMessage_inj {m m' : Bytes} : frameMessage m = frameMessage m' ↔ m = m' := by
  constructor
  · intro same
    have behind := congrArg (List.drop 5) same
    exact behind
  · rintro rfl
    rfl

/-- Every message whose length four bytes hold is framed. -/
theorem framingFault?_eq_none_iff {message : Bytes} :
    framingFault? message = none ↔ message.length ≤ frameLimit := by
  unfold framingFault?
  by_cases long : frameLimit < message.length
  · rw [if_pos long]
    exact ⟨nofun, fun short => absurd long (Nat.not_lt.mpr short)⟩
  · rw [if_neg long]
    exact ⟨fun _ => Nat.not_lt.mp long, fun _ => rfl⟩

theorem length_lt_of_le_messageLimit {n : Nat} (short : n ≤ messageLimit) : n < 0x100000000 :=
  Nat.lt_of_le_of_lt short (by decide)

/-! ## Buffers -/

namespace Buffer

theorem takeBody_append (message rest : Bytes) :
    takeBody message.length (message ++ rest) = (some message, { bytes := rest }) := by
  have enough : (message ++ rest).atLeast message.length = true := by
    rw [Bytes.atLeast_iff, List.length_append]
    omega
  rw [takeBody, if_pos enough, List.take_left, List.drop_left]

/-- The front of a message that is not too long is accepted. -/
theorem frameFault?_eq_none {reading : Reading} {n : Nat} (short : n ≤ messageLimit) :
    reading.frameFault? 0 n = none := by
  unfold Reading.frameFault?
  rw [if_neg (by decide), if_neg (by decide), if_neg (Nat.not_lt.mpr short)]

/-- Behind a front that is accepted, the buffer awaits the body. The flag is kept a variable:
with its value in place the kernel would compare lengths by counting up to the limit. -/
theorem take_of_accepted {reading : Reading} {flag l₁ l₂ l₃ l₄ : UInt8}
    (accepted : reading.frameFault? flag (bigEndian l₁ l₂ l₃ l₄) = none) (bytes : Bytes) :
    take reading { bytes := flag :: l₁ :: l₂ :: l₃ :: l₄ :: bytes } =
      .ok (takeBody (bigEndian l₁ l₂ l₃ l₄) bytes) := by
  simp only [take, accepted]

/-- A framed message is taken whole, and what follows it stays. -/
theorem take_frame (reading : Reading) {message : Bytes} (short : message.length ≤ messageLimit)
    (rest : Bytes) :
    take reading { bytes := frameMessage message ++ rest } =
      .ok (some message, { bytes := rest }) := by
  obtain ⟨l₁, l₂, l₃, l₄, framed, length⟩ :=
    frameMessage_eq message (length_lt_of_le_messageLimit short)
  have accepted : reading.frameFault? 0 (bigEndian l₁ l₂ l₃ l₄) = none := by
    rw [length]
    exact frameFault?_eq_none short
  rw [framed]
  refine (take_of_accepted accepted (message ++ rest)).trans ?_
  rw [length, takeBody_append]

theorem take_empty (reading : Reading) : take reading {} = .ok (none, {}) := rfl

end Buffer

/-! ## Streams -/

namespace Stream

/-- A body that begins with a framed message gives that message first. -/
theorem pull_frame (reading : Reading) {message : Bytes}
    (short : message.length ≤ messageLimit) (body : List BodyFrame) :
    pull reading { body := .data (frameMessage message) :: body } = .message message { body } := by
  have whole := Buffer.take_frame reading short []
  rw [List.append_nil] at whole
  -- The buffer is still empty, so the first frame goes into it whole.
  rw [pull, pullFrom, Buffer.take_empty]
  show pullFrom reading { bytes := frameMessage message } body = _
  rw [pullFrom.eq_def, whole]

theorem pull_nil (reading : Reading) : pull reading { body := [] } = .finished none := rfl

theorem pull_trailers (reading : Reading) (headers : Http.Headers) (body : List BodyFrame) :
    pull reading { body := .trailers headers :: body } = .finished (some headers) := rfl

/-- A body that fails ends with the status of its cause, unless it is a request that its client gave
up. -/
theorem pull_failure {reading : Reading} (cause : Failure)
    (serious : reading = .request → cause.toStatus.code ≠ .cancelled) (body : List BodyFrame) :
    pull reading { body := .failure cause :: body } = .failed cause.toStatus := by
  show (if reading = .request ∧ cause.toStatus.code = .cancelled then Step.finished none
    else .failed cause.toStatus) = _
  rw [if_neg fun gone => serious gone.1 gone.2]

section Records

variable {α : Type} [Wire.Record α] {reading : Reading}

theorem next_of_failed {s : Stream} {status : Status} (fails : s.pull reading = .failed status) :
    (s.next reading : Except Status (Next α)) = .error status := by
  rw [next, fails]

theorem next_of_finished {s : Stream} {trailers : Option Http.Headers}
    (ends : s.pull reading = .finished trailers) :
    (s.next reading : Except Status (Next α)) = .ok (.ended trailers) := by
  rw [next, ends]

/-- A body that begins with a framed record gives that record first. -/
theorem next_frame {message : Bytes} {a : α} (short : message.length ≤ messageLimit)
    (decodes : Wire.Record.decode message = .ok a) (body : List BodyFrame) :
    next reading { body := .data (frameMessage message) :: body } = .ok (.message a { body }) := by
  rw [next, pull_frame reading short body]
  simp only [decodes]

/-- Draining a stream, by what comes next in it. -/
theorem drain_eq (reading : Reading) (s : Stream) :
    s.drain α reading =
      match (s.next reading : Except Status (Next α)) with
      | .error fault => .error fault
      | .ok (.ended trailers) => .ok trailers
      | .ok (.message _ rest) => rest.drain α reading := by
  -- `drain` keeps the equation of its step, so that it terminates: the step cannot be rewritten.
  rw [drain]
  split
  · next step => rw [step]
  · next step => rw [step]
  · next step => rw [step]

/-- Draining stops at once at the end of a body. -/
theorem drain_of_finished {s : Stream} {trailers : Option Http.Headers}
    (ends : s.pull reading = .finished trailers) : s.drain α reading = .ok trailers := by
  rw [drain_eq, next_of_finished ends]

end Records

end Stream

end Courier
