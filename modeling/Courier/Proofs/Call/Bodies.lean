import Courier.Proofs.Call.Gathering

/-!
# Bodies by their bytes

With its data gathered, a body is a byte string and an end. A message is given exactly when the
bytes begin with it in its frame (`pull_whole_frame`, `of_pull_whole_eq_message`), and the trailers
that reading comes to are those at the end (`trailers_of_drain`). A row of messages in front of
other bytes is read through and leaves these bytes as they are (`drain_framed`).
-/

namespace Courier

open Http (Headers)

/-- A message that is not too long and spells a record. -/
structure IsMessage {α : Type} [Wire.Record α] (message : Bytes) (a : α) : Prop where
  short : message.length ≤ messageLimit
  decodes : Wire.Record.decode message = .ok a

/-! ## Fronts -/

/-- A message of the length that a front says is framed by this front. -/
theorem frameMessage_of_length {message : Bytes} {l₁ l₂ l₃ l₄ : UInt8}
    (length : message.length = bigEndian l₁ l₂ l₃ l₄) :
    frameMessage message = 0 :: l₁ :: l₂ :: l₃ :: l₄ :: message := by
  have bounds := And.intro l₁.toNat_lt (And.intro l₂.toNat_lt (And.intro l₃.toNat_lt l₄.toNat_lt))
  have first : UInt8.ofNat (bigEndian l₁ l₂ l₃ l₄ / 16777216) = l₁ := by
    rw [← UInt8.toNat_inj, UInt8.toNat_ofNat', bigEndian]
    omega
  have second : UInt8.ofNat (bigEndian l₁ l₂ l₃ l₄ / 65536) = l₂ := by
    rw [← UInt8.toNat_inj, UInt8.toNat_ofNat', bigEndian]
    omega
  have third : UInt8.ofNat (bigEndian l₁ l₂ l₃ l₄ / 256) = l₃ := by
    rw [← UInt8.toNat_inj, UInt8.toNat_ofNat', bigEndian]
    omega
  have fourth : UInt8.ofNat (bigEndian l₁ l₂ l₃ l₄) = l₄ := by
    rw [← UInt8.toNat_inj, UInt8.toNat_ofNat', bigEndian]
    omega
  simp only [frameMessage, length, first, second, third, fourth, List.cons_append, List.nil_append]

/-- Only a zero flag and a length within the limit are accepted. -/
theorem Reading.of_frameFault?_eq_none {reading : Reading} {flag : UInt8} {n : Nat}
    (accepted : reading.frameFault? flag n = none) : flag = 0 ∧ n ≤ messageLimit := by
  unfold frameFault? at accepted
  split at accepted
  · cases accepted
  · split at accepted
    · cases accepted
    · next zero =>
      split at accepted
      · cases accepted
      · next within =>
        exact ⟨Decidable.not_not.mp zero, Nat.not_lt.mp within⟩

namespace Buffer

/-- A message is taken from bytes that begin with its frame. -/
theorem of_take_eq_message {reading : Reading} {bytes message : Bytes} {rest : Buffer}
    (there : take reading { bytes } = .ok (some message, rest)) :
    message.length ≤ messageLimit ∧
      ∃ left, bytes = frameMessage message ++ left ∧ rest = { bytes := left } := by
  rcases cases_buffer { bytes } with
    ⟨n, _, awaits⟩ | ⟨_, few, same⟩ | ⟨flag, l₁, l₂, l₃, l₄, behind, same⟩
  · cases awaits
  · cases same
    rw [take_of_lt_five reading few] at there
    cases there
  · cases same
    rw [take_front] at there
    split at there
    · cases there
    · next accepted =>
      obtain ⟨zero, within⟩ := Reading.of_frameFault?_eq_none accepted
      rcases Nat.lt_or_ge behind.length (bigEndian l₁ l₂ l₃ l₄) with short | enough
      · rw [takeBody_of_lt short] at there
        cases there
      · -- The message and what follows it get names, so that nothing is left to be counted out.
        obtain ⟨body, left, rfl, length⟩ :
            ∃ body left, behind = body ++ left ∧ body.length = bigEndian l₁ l₂ l₃ l₄ :=
          ⟨_, _, (List.take_append_drop _ _).symm, List.length_take_of_le enough⟩
        rw [← length, takeBody_append] at there
        cases there
        refine ⟨by rw [length]; exact within, left, ?_, rfl⟩
        rw [frameMessage_of_length length, zero]
        rfl

end Buffer

/-- Bytes begin with at most one framed message. -/
theorem frameMessage_append_inj {m m' left left' : Bytes} (short : m.length < 0x100000000)
    (short' : m'.length < 0x100000000)
    (same : frameMessage m ++ left = frameMessage m' ++ left') : m = m' ∧ left = left' := by
  obtain ⟨l₁, l₂, l₃, l₄, framed, length⟩ := frameMessage_eq m short
  obtain ⟨k₁, k₂, k₃, k₄, framed', length'⟩ := frameMessage_eq m' short'
  rw [framed, framed'] at same
  simp only [List.cons_append, List.cons.injEq, true_and] at same
  obtain ⟨rfl, rfl, rfl, rfl, same⟩ := same
  exact List.append_inj same (length.symm.trans length')

/-! ## Streams whose data are all there -/

/-- The trailers with which a body ends. -/
def Ending.trailers? : Ending → Option Headers
  | .silent => none
  | .trailers headers => some headers
  | .failure _ => none

namespace Stream

variable {reading : Reading} {bytes : Bytes} {e : Ending}

/-- A stream with all of its data in the buffer. -/
def whole (bytes : Bytes) (e : Ending) : Stream := { buffer := { bytes }, body := e.frames }

theorem gather_body (body : List BodyFrame) :
    gather { body } = whole (leadingBytes body) (ending body) := rfl

theorem gather_whole (bytes : Bytes) (e : Ending) : (whole bytes e).gather = whole bytes e := by
  cases e <;> simp [whole, gather, Ending.frames, leadingBytes, ending]

/-- Bytes that begin with a framed message give it and leave what follows. -/
theorem pull_whole_frame (reading : Reading) {message : Bytes}
    (short : message.length ≤ messageLimit) (left : Bytes) (e : Ending) :
    pull reading (whole (frameMessage message ++ left) e) = .message message (whole left e) := by
  show pullFrom reading { bytes := frameMessage message ++ left } e.frames = _
  rw [pullFrom.eq_def, Buffer.take_frame reading short left]
  rfl

/-- A message is only given by bytes that begin with its frame. -/
theorem of_pull_whole_eq_message {message : Bytes} {rest : Stream}
    (pulled : pull reading (whole bytes e) = .message message rest) :
    message.length ≤ messageLimit ∧
      ∃ left, bytes = frameMessage message ++ left ∧ rest = whole left e := by
  replace pulled : pullFrom reading { bytes } e.frames = .message message rest := pulled
  rw [pullFrom.eq_def] at pulled
  split at pulled
  · cases pulled
  · next there =>
    cases pulled
    obtain ⟨short, left, parts, rfl⟩ := Buffer.of_take_eq_message there
    exact ⟨short, left, parts, rfl⟩
  · -- Without a message in the buffer, none of the three ends brings one.
    cases e with
    | silent =>
      simp only [Ending.frames] at pulled
      split at pulled <;> cases pulled
    | trailers headers => cases pulled
    | failure cause =>
      simp only [Ending.frames] at pulled
      split at pulled <;> cases pulled

/-- Reading that comes to the end of a body has come to its trailers, and only a request may break
off. -/
theorem of_pull_whole_eq_finished {trailers : Option Headers}
    (pulled : pull reading (whole bytes e) = .finished trailers) :
    trailers = e.trailers? ∧ ∀ cause, e = .failure cause → reading = .request := by
  replace pulled : pullFrom reading { bytes } e.frames = .finished trailers := pulled
  rw [pullFrom.eq_def] at pulled
  split at pulled
  · cases pulled
  · cases pulled
  · cases e with
    | silent =>
      simp only [Ending.frames] at pulled
      split at pulled
      · cases pulled
        exact ⟨rfl, fun cause failed => by cases failed⟩
      · cases pulled
    | trailers headers =>
      cases pulled
      exact ⟨rfl, fun cause failed => by cases failed⟩
    | failure cause =>
      simp only [Ending.frames] at pulled
      split at pulled
      · next gaveUp =>
        cases pulled
        exact ⟨rfl, fun _ _ => gaveUp.1⟩
      · cases pulled

section Records

variable {α : Type} [Wire.Record α]

theorem next_whole_frame (reading : Reading) {message : Bytes} {a : α}
    (valid : IsMessage message a) (left : Bytes) (e : Ending) :
    next reading (whole (frameMessage message ++ left) e) = .ok (.message a (whole left e)) := by
  rw [next, pull_whole_frame reading valid.short]
  simp only [valid.decodes]

theorem of_next_whole_eq_message {a : α} {rest : Stream}
    (given : (whole bytes e).next reading = .ok (.message a rest)) :
    ∃ message left, IsMessage message a ∧ bytes = frameMessage message ++ left ∧
      rest = whole left e := by
  unfold next at given
  split at given
  · cases given
  · cases given
  · next pulled =>
    obtain ⟨short, left, parts, rfl⟩ := of_pull_whole_eq_message pulled
    split at given
    · cases given
    · next decodes =>
      cases given
      exact ⟨_, left, ⟨short, decodes⟩, parts, rfl⟩

theorem of_next_whole_eq_ended {trailers : Option Headers}
    (given : ((whole bytes e).next reading : Except Status (Next α)) = .ok (.ended trailers)) :
    trailers = e.trailers? ∧ ∀ cause, e = .failure cause → reading = .request := by
  unfold next at given
  split at given
  · cases given
  · next pulled =>
    cases given
    exact of_pull_whole_eq_finished pulled
  · split at given <;> cases given

/-- A body that is read to its end gives the trailers there. The induction is on the bytes: a
message uses up some of them and leaves the end as it is. -/
theorem of_drain_whole_eq_ok {trailers : Option Headers}
    (drained : (whole bytes e).drain α reading = .ok trailers) :
    trailers = e.trailers? ∧ ∀ cause, e = .failure cause → reading = .request := by
  induction size : bytes.length using Nat.strongRecOn generalizing bytes with
  | ind n ih =>
    rw [drain_eq] at drained
    split at drained
    · cases drained
    · next given =>
      cases drained
      exact of_next_whole_eq_ended given
    · next given =>
      obtain ⟨message, left, -, parts, rfl⟩ := of_next_whole_eq_message given
      refine ih left.length ?_ drained rfl
      rw [← size, parts, List.length_append, frameMessage, List.length_append]
      simp only [List.length_cons]
      omega

/-- Messages, each in its frame, one behind the other. -/
def framed (messages : List Bytes) : Bytes := messages.flatMap frameMessage

/-- Draining reads through a row of messages and goes on behind them. -/
theorem drain_framed (reading : Reading) {messages : List Bytes}
    (valid : ∀ message ∈ messages, ∃ a : α, IsMessage message a) (left : Bytes) (e : Ending) :
    (whole (framed messages ++ left) e).drain α reading = (whole left e).drain α reading := by
  induction messages with
  | nil => rfl
  | cons message rest ih =>
    obtain ⟨a, first⟩ := valid message List.mem_cons_self
    have front : framed (message :: rest) ++ left =
        frameMessage message ++ (framed rest ++ left) := by
      rw [framed, List.flatMap_cons, List.append_assoc]
      rfl
    rw [front, drain_eq, next_whole_frame reading first]
    exact ih fun m mem => valid m (List.mem_cons_of_mem _ mem)

theorem next_whole_trailers (reading : Reading) (headers : Headers) :
    ((whole [] (.trailers headers)).next reading : Except Status (Next α)) =
      .ok (.ended (some headers)) :=
  next_of_finished (pull_trailers reading headers [])

theorem drain_whole_trailers (reading : Reading) (headers : Headers) :
    (whole [] (.trailers headers)).drain α reading = .ok (some headers) :=
  drain_of_finished (pull_trailers reading headers [])

theorem next_whole_failure (response : reading ≠ .request) (cause : Failure) :
    ((whole [] (.failure cause)).next reading : Except Status (Next α)) =
      .error cause.toStatus :=
  next_of_failed (pull_failure cause (fun request => absurd request response) [])

theorem drain_whole_failure (response : reading ≠ .request) (cause : Failure) :
    (whole [] (.failure cause)).drain α reading = .error cause.toStatus := by
  rw [drain_eq, next_whole_failure response]

/-! ## Bodies from their start -/

variable {body : List BodyFrame}

/-- The data in front of a body are read before it, however they are cut. -/
theorem gather_chunks (chunks : List Bytes) (body : List BodyFrame) :
    leadingBytes (chunks.map .data ++ body) = chunks.flatten ++ leadingBytes body ∧
      ending (chunks.map .data ++ body) = ending body := by
  induction chunks with
  | nil => exact ⟨rfl, rfl⟩
  | cons bytes chunks ih =>
    exact ⟨(congrArg (bytes ++ ·) ih.1).trans (List.append_assoc _ _ _).symm, ih.2⟩

theorem gather_body_eq (body : List BodyFrame) :
    gather { body } = (whole (leadingBytes body) (ending body)).gather :=
  (gather_body body).trans (gather_whole _ _).symm

/-- What is left of a stream is drained by its bytes and its end. -/
theorem drain_of_gather_eq_whole {rest : Stream} (gathered : rest.gather = whole bytes e) :
    rest.drain α reading = (whole bytes e).drain α reading :=
  drain_of_gather_eq α reading (gathered.trans (gather_whole bytes e).symm)

/-- In a body that does not break off, the first trailers are those that its data end with. -/
theorem bodyTrailers?_of_unbroken (unbroken : ∀ cause, ending body ≠ .failure cause) :
    Http.bodyTrailers? body = (ending body).trailers? := by
  induction body with
  | nil => rfl
  | cons frame body ih =>
    cases frame with
    | data bytes => exact ih unbroken
    | trailers headers => rfl
    | failure cause => exact absurd rfl (unbroken cause)

/-- A response whose body is read to its end gives its first trailers. -/
theorem trailers_of_drain {trailers : Option Headers} (response : reading ≠ .request)
    (drained : drain α reading { body } = .ok trailers) :
    trailers = Http.bodyTrailers? body := by
  rw [drain_of_gather_eq_whole (gather_body body)] at drained
  obtain ⟨last, unbroken⟩ := of_drain_whole_eq_ok drained
  rw [last, bodyTrailers?_of_unbroken fun cause broken => response (unbroken cause broken)]

/-- A body whose bytes begin with a framed record gives it first. -/
theorem next_body_frame (reading : Reading) {message left : Bytes} {a : α}
    (valid : IsMessage message a) (parts : leadingBytes body = frameMessage message ++ left) :
    ∃ rest, next reading { body } = .ok (.message a rest) ∧
      rest.gather = whole left (ending body) := by
  have given := next_whole_frame reading valid left (ending body)
  rw [← parts] at given
  rcases next_of_gather_eq α reading (gather_body_eq body) with
    ⟨fault, -, second⟩ | ⟨trailers, -, second⟩ | ⟨a', rest, rest', first, second, alike⟩
  · rw [given] at second
    cases second
  · rw [given] at second
    cases second
  · rw [given] at second
    cases second
    exact ⟨rest, first, alike.trans (gather_whole _ _)⟩

/-- In front of other records, the first one is given, and draining what is left comes to the
end. -/
theorem next_body_framed (reading : Reading) {first : Bytes} {later : List Bytes} {a : α}
    (valid : IsMessage first a) (others : ∀ message ∈ later, ∃ b : α, IsMessage message b)
    (parts : leadingBytes body = framed (first :: later)) :
    ∃ rest, next reading { body } = .ok (.message a rest) ∧
      rest.drain α reading = (whole [] (ending body)).drain α reading := by
  have front : leadingBytes body = frameMessage first ++ framed later := by
    rw [parts, framed, List.flatMap_cons]
    rfl
  obtain ⟨rest, given, gathered⟩ := next_body_frame reading valid front
  have behind := drain_framed reading others [] (ending body)
  rw [List.append_nil] at behind
  exact ⟨rest, given, (drain_of_gather_eq_whole gathered).trans behind⟩

/-- A body without a byte comes to its end at once. -/
theorem next_body_empty (reading : Reading) (empty : leadingBytes body = []) :
    (next reading { body } : Except Status (Next α)) = (whole [] (ending body)).next reading := by
  have same := gather_body_eq body
  rw [empty] at same
  rcases next_of_gather_eq α reading same with
    ⟨fault, first, second⟩ | ⟨trailers, first, second⟩ | ⟨a, rest, rest', -, second, -⟩
  · rw [first, second]
  · rw [first, second]
  · obtain ⟨message, left, -, none, -⟩ := of_next_whole_eq_message second
    cases none

/-- The first record of a body is the one whose frame its bytes begin with. -/
theorem of_next_body_eq_message {a : α} {rest : Stream}
    (given : next reading { body } = .ok (.message a rest)) :
    ∃ message left, IsMessage message a ∧ leadingBytes body = frameMessage message ++ left ∧
      rest.gather = whole left (ending body) := by
  rcases next_of_gather_eq α reading (gather_body_eq body) with
    ⟨fault, first, -⟩ | ⟨trailers, first, -⟩ | ⟨a', rest', rest'', first, second, alike⟩
  · rw [given] at first
    cases first
  · rw [given] at first
    cases first
  · rw [given] at first
    cases first
    obtain ⟨message, left, valid, parts, rfl⟩ := of_next_whole_eq_message second
    exact ⟨message, left, valid, parts, alike.trans (gather_whole _ _)⟩

end Records

end Stream

end Courier
