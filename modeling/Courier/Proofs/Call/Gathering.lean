import Courier.Proofs.Call.Framing

/-!
# Bodies without the cuts in them

A body is read through a buffer, so its bytes matter and not how they are cut into frames.
`Stream.gather` puts all data that is still to come into the buffer at once. Reading commutes with
it (`pull_gather`): a message or a fault that a buffer holds is there whatever stands behind it,
and a buffer that holds neither waits for the next frame. Streams that gather to the same one are
therefore read alike to their ends (`next_of_gather_eq`, `drain_of_gather_eq`).
-/

namespace Courier

open Http (Headers)

/-! ## More bytes behind a buffer -/

namespace Buffer

variable {reading : Reading} {b rest : Buffer}

@[simp] theorem push_nil (b : Buffer) : b.push [] = b := by simp [push]

@[simp] theorem push_push (b : Buffer) (bytes more : Bytes) :
    (b.push bytes).push more = b.push (bytes ++ more) := by
  simp [push, List.append_assoc]

/-- A body that is whole stays whole. -/
theorem takeBody_of_le {n : Nat} {bytes : Bytes} (enough : n ≤ bytes.length) :
    takeBody n bytes = (some (bytes.take n), { bytes := bytes.drop n }) := by
  rw [takeBody, if_pos (Bytes.atLeast_iff.mpr enough)]

theorem takeBody_of_lt {n : Nat} {bytes : Bytes} (short : bytes.length < n) :
    takeBody n bytes = (none, { awaited := some n, bytes }) := by
  have few : ¬bytes.atLeast n = true := by
    rw [Bytes.atLeast_iff]
    omega
  rw [takeBody, if_neg few]

/-- Once a length is known, the next `take` looks for a body of that length. -/
theorem take_awaited (reading : Reading) (n : Nat) (bytes : Bytes) :
    take reading { awaited := some n, bytes } = .ok (takeBody n bytes) := rfl

/-- A front of five bytes is judged, whatever follows. -/
theorem take_front (reading : Reading) (flag l₁ l₂ l₃ l₄ : UInt8) (bytes : Bytes) :
    take reading { bytes := flag :: l₁ :: l₂ :: l₃ :: l₄ :: bytes } =
      match reading.frameFault? flag (bigEndian l₁ l₂ l₃ l₄) with
      | some fault => .error fault
      | none => .ok (takeBody (bigEndian l₁ l₂ l₃ l₄) bytes) := rfl

/-- Fewer than five bytes are no front. -/
theorem take_of_lt_five (reading : Reading) {bytes : Bytes} (few : bytes.length < 5) :
    take reading { bytes } = .ok (none, { bytes }) := by
  match bytes, few with
  | [], _ => rfl
  | [_], _ => rfl
  | [_, _], _ => rfl
  | [_, _, _], _ => rfl
  | [_, _, _, _], _ => rfl
  | _ :: _ :: _ :: _ :: _ :: rest, few =>
    simp only [List.length_cons] at few
    omega

/-- A buffer awaits a body, has too few bytes for a front, or begins with one. -/
theorem cases_buffer (b : Buffer) :
    (∃ n bytes, b = { awaited := some n, bytes }) ∨
    (∃ bytes : Bytes, bytes.length < 5 ∧ b = { bytes }) ∨
    (∃ flag l₁ l₂ l₃ l₄ bytes, b = { bytes := flag :: l₁ :: l₂ :: l₃ :: l₄ :: bytes }) := by
  obtain ⟨awaited, bytes⟩ := b
  cases awaited with
  | some n => exact .inl ⟨n, bytes, rfl⟩
  | none =>
    right
    match bytes with
    | flag :: l₁ :: l₂ :: l₃ :: l₄ :: rest => exact .inr ⟨flag, l₁, l₂, l₃, l₄, rest, rfl⟩
    | [] => exact .inl ⟨_, by decide, rfl⟩
    | [_] => exact .inl ⟨_, by simp, rfl⟩
    | [_, _] => exact .inl ⟨_, by simp, rfl⟩
    | [_, _, _] => exact .inl ⟨_, by simp, rfl⟩
    | [_, _, _, _] => exact .inl ⟨_, by simp, rfl⟩

/-- A body that is there is taken in the same way when more bytes stand behind it. -/
theorem takeBody_append_of_some {n : Nat} {bytes message : Bytes}
    (whole : takeBody n bytes = (some message, rest)) (more : Bytes) :
    takeBody n (bytes ++ more) = (some message, rest.push more) := by
  rcases Nat.lt_or_ge bytes.length n with short | enough
  · rw [takeBody_of_lt short] at whole
    cases whole
  · rw [takeBody_of_le enough] at whole
    cases whole
    have still : n ≤ (bytes ++ more).length := by
      rw [List.length_append]
      omega
    rw [takeBody_of_le still, List.take_append_of_le_length enough,
      List.drop_append_of_le_length enough]
    rfl

/-- When a body is not there yet, its length is kept. -/
theorem takeBody_of_none {n : Nat} {bytes : Bytes} (waits : takeBody n bytes = (none, rest)) :
    rest = { awaited := some n, bytes } := by
  rcases Nat.lt_or_ge bytes.length n with short | enough
  · rw [takeBody_of_lt short] at waits
    cases waits
    rfl
  · rw [takeBody_of_le enough] at waits
    cases waits

theorem take_push_of_error {fault : Status} (faulty : b.take reading = .error fault)
    (more : Bytes) : (b.push more).take reading = .error fault := by
  rcases cases_buffer b with
    ⟨n, bytes, rfl⟩ | ⟨bytes, few, rfl⟩ | ⟨flag, l₁, l₂, l₃, l₄, bytes, rfl⟩
  · rw [take_awaited] at faulty
    cases faulty
  · rw [take_of_lt_five reading few] at faulty
    cases faulty
  · rw [take_front] at faulty
    show take reading { bytes := flag :: l₁ :: l₂ :: l₃ :: l₄ :: (bytes ++ more) } = _
    rw [take_front]
    split at faulty
    · exact faulty
    · cases faulty

theorem take_push_of_message {message : Bytes} (there : b.take reading = .ok (some message, rest))
    (more : Bytes) : (b.push more).take reading = .ok (some message, rest.push more) := by
  rcases cases_buffer b with
    ⟨n, bytes, rfl⟩ | ⟨bytes, few, rfl⟩ | ⟨flag, l₁, l₂, l₃, l₄, bytes, rfl⟩
  · rw [take_awaited] at there
    show take reading { awaited := some n, bytes := bytes ++ more } = _
    rw [take_awaited, takeBody_append_of_some (Except.ok.inj there)]
  · rw [take_of_lt_five reading few] at there
    cases there
  · rw [take_front] at there
    show take reading { bytes := flag :: l₁ :: l₂ :: l₃ :: l₄ :: (bytes ++ more) } = _
    rw [take_front]
    split at there
    · cases there
    · rw [takeBody_append_of_some (Except.ok.inj there)]

/-- A buffer without a whole message loses nothing by the attempt to take one. -/
theorem take_push_of_none (waits : b.take reading = .ok (none, rest)) (more : Bytes) :
    (rest.push more).take reading = (b.push more).take reading := by
  rcases cases_buffer b with
    ⟨n, bytes, rfl⟩ | ⟨bytes, few, rfl⟩ | ⟨flag, l₁, l₂, l₃, l₄, bytes, rfl⟩
  · rw [take_awaited] at waits
    rw [takeBody_of_none (Except.ok.inj waits)]
  · rw [take_of_lt_five reading few] at waits
    cases waits
    rfl
  · rw [take_front] at waits
    split at waits
    · cases waits
    · next accepted =>
      rw [takeBody_of_none (Except.ok.inj waits)]
      show take reading { awaited := some (bigEndian l₁ l₂ l₃ l₄), bytes := bytes ++ more } =
        take reading { bytes := flag :: l₁ :: l₂ :: l₃ :: l₄ :: (bytes ++ more) }
      rw [take_awaited, take_front, accepted]

end Buffer

/-! ## Gathering -/

/-- Where the reading of a body ends: with nothing more, or at the first frame without data. -/
inductive Ending where
  | silent
  | trailers (headers : Headers)
  | failure (cause : Failure)

/-- A body that has no data, only its end. -/
def Ending.frames : Ending → List BodyFrame
  | .silent => []
  | .trailers headers => [.trailers headers]
  | .failure cause => [.failure cause]

namespace Stream

/-- The bytes of the data in front of a body. -/
def leadingBytes : List BodyFrame → Bytes
  | [] => []
  | .data bytes :: body => bytes ++ leadingBytes body
  | .trailers _ :: _ => []
  | .failure _ :: _ => []

/-- What stands behind the data in front of a body. -/
def ending : List BodyFrame → Ending
  | [] => .silent
  | .data _ :: body => ending body
  | .trailers headers :: _ => .trailers headers
  | .failure cause :: _ => .failure cause

/-- The same stream with all data that is to come in its buffer. -/
def gather (s : Stream) : Stream :=
  { buffer := s.buffer.push (leadingBytes s.body), body := (ending s.body).frames }

/-- A step with what follows it gathered. -/
def Step.gather : Step → Step
  | .message bytes rest => .message bytes rest.gather
  | .finished trailers => .finished trailers
  | .failed status => .failed status

variable {reading : Reading}

/-- What is pulled depends on the buffer only through what can be taken from it. -/
theorem pullFrom_of_take_eq {b b' : Buffer} (same : b.take reading = b'.take reading)
    (body : List BodyFrame) : pullFrom reading b body = pullFrom reading b' body := by
  rw [pullFrom.eq_def, pullFrom.eq_def, same]

/-- Reading commutes with gathering. The induction is on the frames that are put into the buffer
before a message, a fault or the end is found; the bytes behind them do not change what is found. -/
theorem pull_gather (reading : Reading) (s : Stream) :
    s.gather.pull reading = (s.pull reading).gather := by
  obtain ⟨buffer, body⟩ := s
  show pullFrom reading (buffer.push (leadingBytes body)) (ending body).frames =
    (pullFrom reading buffer body).gather
  fun_induction pullFrom reading buffer body with
  | case1 buffer body fault faulty =>
    rw [pullFrom, Buffer.take_push_of_error faulty]
    rfl
  | case2 buffer body message rest there =>
    rw [pullFrom, Buffer.take_push_of_message there]
    rfl
  | case3 buffer rest waits drained =>
    show pullFrom reading (buffer.push []) [] = .finished none
    rw [Buffer.push_nil, pullFrom, waits]
    exact if_pos drained
  | case4 buffer rest waits left =>
    show pullFrom reading (buffer.push []) [] = .failed unexpectedEnd
    rw [Buffer.push_nil, pullFrom, waits]
    exact if_neg left
  | case5 buffer rest waits bytes body ih =>
    rw [← ih, Buffer.push_push]
    exact pullFrom_of_take_eq (Buffer.take_push_of_none waits _).symm _
  | case6 buffer rest waits headers body =>
    show pullFrom reading (buffer.push []) [.trailers headers] = .finished (some headers)
    rw [Buffer.push_nil, pullFrom, waits]
  | case7 buffer rest waits cause body gaveUp =>
    show pullFrom reading (buffer.push []) [.failure cause] = .finished none
    rw [Buffer.push_nil, pullFrom, waits]
    exact if_pos gaveUp
  | case8 buffer rest waits cause body fails =>
    show pullFrom reading (buffer.push []) [.failure cause] = .failed cause.toStatus
    rw [Buffer.push_nil, pullFrom, waits]
    exact if_neg fails

/-! ## Streams that are read alike -/

theorem Step.eq_failed_of_gather {step : Step} {fault : Status}
    (gathered : step.gather = .failed fault) : step = .failed fault := by
  cases step with
  | message bytes rest => cases gathered
  | finished trailers => cases gathered
  | failed status => exact gathered

theorem Step.eq_finished_of_gather {step : Step} {trailers : Option Headers}
    (gathered : step.gather = .finished trailers) : step = .finished trailers := by
  cases step with
  | message bytes rest => cases gathered
  | finished trailers => exact gathered
  | failed status => cases gathered

theorem Step.eq_message_of_gather {step : Step} {bytes : Bytes} {rest : Stream}
    (gathered : step.gather = .message bytes rest) :
    ∃ rest', step = .message bytes rest' ∧ rest'.gather = rest := by
  cases step with
  | message bytes' rest' =>
    cases gathered
    exact ⟨rest', rfl, rfl⟩
  | finished trailers => cases gathered
  | failed status => cases gathered

section Records

variable (α : Type) [Wire.Record α] (reading : Reading)

/-- Streams that gather to the same one give the same message and go on alike, or they end or fail
in the same way. -/
theorem next_of_gather_eq {s t : Stream} (same : s.gather = t.gather) :
    (∃ fault, (s.next reading : Except Status (Next α)) = .error fault ∧
      (t.next reading : Except Status (Next α)) = .error fault) ∨
    (∃ trailers, (s.next reading : Except Status (Next α)) = .ok (.ended trailers) ∧
      (t.next reading : Except Status (Next α)) = .ok (.ended trailers)) ∨
    (∃ (a : α) (rest rest' : Stream), s.next reading = .ok (.message a rest) ∧
      t.next reading = .ok (.message a rest') ∧ rest.gather = rest'.gather) := by
  have pulled : (t.pull reading).gather = (s.pull reading).gather := by
    rw [← pull_gather, ← pull_gather, same]
  unfold next
  cases first : s.pull reading with
  | failed fault =>
    rw [first] at pulled
    rw [Step.eq_failed_of_gather pulled]
    exact .inl ⟨fault, rfl, rfl⟩
  | finished trailers =>
    rw [first] at pulled
    rw [Step.eq_finished_of_gather pulled]
    exact .inr (.inl ⟨trailers, rfl, rfl⟩)
  | message bytes rest =>
    rw [first] at pulled
    obtain ⟨rest', second, alike⟩ := Step.eq_message_of_gather pulled
    rw [second]
    cases decoded : (Wire.Record.decode bytes : Except Wire.Fault α) with
    | error fault =>
      left
      simp only [decoded]
      exact ⟨_, rfl, rfl⟩
    | ok a =>
      right; right
      simp only [decoded]
      exact ⟨a, rest, rest', rfl, rfl, alike.symm⟩

/-- Streams that gather to the same one come to the same end. -/
theorem drain_of_gather_eq {s t : Stream} (same : s.gather = t.gather) :
    s.drain α reading = t.drain α reading := by
  induction size : s.size using Nat.strongRecOn generalizing s t with
  | ind n ih =>
    rw [drain_eq reading s, drain_eq reading t]
    rcases next_of_gather_eq α reading same with
      ⟨fault, first, second⟩ | ⟨trailers, first, second⟩ | ⟨a, rest, rest', first, second, alike⟩
    · rw [first, second]
    · rw [first, second]
    · rw [first, second]
      exact ih rest.size (size ▸ size_next_lt first) alike rfl

end Records

end Stream

/-! ## Cuts -/

/-- Two bodies that differ only in how their data are cut into frames: a frame is split or two are
joined, and frames without a byte come and go. All other frames keep their place. -/
inductive Recut : List BodyFrame → List BodyFrame → Prop
  | refl (body : List BodyFrame) : Recut body body
  | symm {body body' : List BodyFrame} : Recut body body' → Recut body' body
  | trans {body body' body'' : List BodyFrame} :
      Recut body body' → Recut body' body'' → Recut body body''
  | behind (frame : BodyFrame) {body body' : List BodyFrame} :
      Recut body body' → Recut (frame :: body) (frame :: body')
  | split (bytes more : Bytes) (body : List BodyFrame) :
      Recut (.data (bytes ++ more) :: body) (.data bytes :: .data more :: body)
  | blank (body : List BodyFrame) : Recut body (.data [] :: body)

/-- Cuts change neither the bytes in front of the end of a body nor that end. -/
theorem Recut.gathers {body body' : List BodyFrame} (cut : Recut body body') :
    Stream.leadingBytes body = Stream.leadingBytes body' ∧
      Stream.ending body = Stream.ending body' := by
  induction cut with
  | refl body => exact ⟨rfl, rfl⟩
  | symm _ ih => exact ⟨ih.1.symm, ih.2.symm⟩
  | trans _ _ first second => exact ⟨first.1.trans second.1, first.2.trans second.2⟩
  | behind frame _ ih =>
    cases frame with
    | data bytes => exact ⟨congrArg (bytes ++ ·) ih.1, ih.2⟩
    | trailers headers => exact ⟨rfl, rfl⟩
    | failure cause => exact ⟨rfl, rfl⟩
  | split bytes more body => exact ⟨List.append_assoc _ _ _, rfl⟩
  | blank body => exact ⟨rfl, rfl⟩

theorem Recut.gather_eq {body body' : List BodyFrame} (cut : Recut body body') :
    Stream.gather { body } = Stream.gather { body := body' } := by
  obtain ⟨bytes, ends⟩ := cut.gathers
  simp only [Stream.gather, bytes, ends]

end Courier
