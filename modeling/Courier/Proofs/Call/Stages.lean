import Courier.Call.Reply
import Courier.Proofs.Call.Bodies
import Courier.Proofs.Call.Status

/-!
# The stages of a response

A response is read in stages: its headers may settle how the call ended, its body has to bring a
message, and the message has to have a payload. `reading_cases` says once what headers can do and
`bodyMessage_cases` what a body can do; the other lemmas lead from a reply to the body and back. Twice
header maps are put together, and twice they may not fit: the headers with the metadata of a failure
before the first message, and with the trailers behind it.
-/

namespace Courier

open Http (Headers)

namespace Http.Response

variable {r : Response} {reading : Reading}

/-! ## Headers -/

/-- Headers make the call fail or crash, say nothing, or say that all went well. -/
theorem reading_cases (r : Response) :
    (∃ s, r.reading = .error (.failed s)) ∨
    (encodingFault? r.headers = none ∧ ∃ fault, r.headers.BadDetails fault ∧
      r.reading = .error (.crashed (.malformedDetails fault))) ∨
    (encodingFault? r.headers = none ∧ r.headers.get? Status.codeHeader = none ∧
      r.reading = .ok (.response r.status)) ∨
    (r.headers.get? Status.codeHeader = some (utf8 "0") ∧ r.reading = .ok .settled) := by
  unfold reading
  cases encodingFault? r.headers with
  | some status => exact .inl ⟨status, rfl⟩
  | none =>
    rcases Status.read_cases r.headers with
      ⟨silent, read⟩ | ⟨fault, bad, read⟩ | ⟨value, s, -, -, -, read⟩
    · rw [read]
      exact .inr (.inr (.inl ⟨rfl, silent, rfl⟩))
    · rw [read]
      exact .inr (.inl ⟨rfl, fault, bad, rfl⟩)
    · rw [read]
      by_cases good : s.code = .ok
      · exact .inr (.inr (.inr ⟨Status.get?_code_of_read_ok read good, if_pos good⟩))
      · exact .inl ⟨s, if_neg good⟩

/-- Headers without a status leave the decision to the trailers. -/
theorem reading_of_silent (plain : encodingFault? r.headers = none)
    (silent : r.headers.get? Status.codeHeader = none) : r.reading = .ok (.response r.status) := by
  rw [reading, plain]
  simp only [Status.read_eq_none_iff.mpr silent]

/-- Headers whose details cannot be read crash the call. -/
theorem reading_of_badDetails {fault : Text.Base64.Fault}
    (plain : encodingFault? r.headers = none) (bad : r.headers.BadDetails fault) :
    r.reading = .error (.crashed (.malformedDetails fault)) := by
  rw [reading, plain]
  simp only [Status.read_eq_error_iff.mpr ⟨fault, rfl, bad⟩]

/-- Headers that let the body be read hold no status or a good one. -/
theorem of_reading_eq_ok (read : r.reading = .ok reading) :
    (r.headers.get? Status.codeHeader = none ∧ reading = .response r.status) ∨
    (r.headers.get? Status.codeHeader = some (utf8 "0") ∧ reading = .settled) := by
  rcases reading_cases r with ⟨s, same⟩ | ⟨-, fault, -, same⟩ | ⟨-, silent, same⟩ | ⟨good, same⟩
  · rw [same] at read
    cases read
  · rw [same] at read
    cases read
  · rw [same] at read
    cases read
    exact .inl ⟨silent, rfl⟩
  · rw [same] at read
    cases read
    exact .inr ⟨good, rfl⟩

/-! ## Bodies -/

/-- A failure before the first message takes up the headers, if they fit. -/
theorem bodyMessage_of_failed {s : Status}
    (failed : r.firstMessage reading = .error (.failed s)) :
    r.bodyMessage reading =
      if s.metadata.fits r.headers then .error (.failed (s.merge r.headers))
      else .error (.crashed .headersFull) := by
  rw [bodyMessage, failed]
  dsimp only [Outcome.mergeFailure]
  cases s.metadata.fits r.headers <;> rfl

theorem bodyMessage_of_crashed {crash : Crash}
    (crashed : r.firstMessage reading = .error (.crashed crash)) :
    r.bodyMessage reading = .error (.crashed crash) := by
  rw [bodyMessage, crashed]
  rfl

theorem bodyMessage_of_none (none : r.firstMessage reading = .ok none) :
    r.bodyMessage reading = .fail .internal "Missing response message." := by
  rw [bodyMessage, none]
  rfl

/-- Behind the first message it is up to the rest of the body. -/
theorem bodyMessage_of_some {m : Wire.Response} {rest : Stream}
    (some : r.firstMessage reading = .ok (some (m, rest))) :
    r.bodyMessage reading =
      match rest.drain Wire.Response reading with
      | .error status => .error (.failed status)
      | .ok trailers =>
        match reading.close trailers with
        | .error e => .error e
        | .ok () =>
          if r.headers.fits (trailers.getD {}) then .ok m else .error (.crashed .headersFull) := by
  rw [bodyMessage, some]
  rfl

/-- What comes first in a body is a failure, its end, which may crash, fail or be good, or a
message. -/
theorem firstMessage_cases (r : Response) (reading : Reading) :
    (∃ s, Stream.next reading { body := r.body } = (.error s : Except Status (Next Wire.Response)) ∧
      r.firstMessage reading = .error (.failed s)) ∨
    (∃ trailers, (Stream.next reading { body := r.body } : Except Status (Next Wire.Response)) =
        .ok (.ended trailers) ∧
      r.firstMessage reading = (reading.close trailers).map fun _ => none) ∨
    ∃ m rest, Stream.next reading { body := r.body } = .ok (.message m rest) ∧
      r.firstMessage reading = .ok (some (m, rest)) := by
  unfold firstMessage
  cases (Stream.next reading { body := r.body } : Except Status (Next Wire.Response)) with
  | error s => exact .inl ⟨s, rfl, rfl⟩
  | ok next =>
    right
    cases next with
    | ended trailers =>
      refine .inl ⟨trailers, rfl, ?_⟩
      dsimp only
      cases reading.close trailers <;> rfl
    | message m rest => exact .inr ⟨m, rest, rfl, rfl⟩

theorem next_of_firstMessage {m : Wire.Response} {rest : Stream}
    (first : r.firstMessage reading = .ok (some (m, rest))) :
    Stream.next reading { body := r.body } = .ok (.message m rest) := by
  rcases firstMessage_cases r reading with
    ⟨s, -, same⟩ | ⟨trailers, -, same⟩ | ⟨m', rest', next, same⟩
  · rw [same] at first
    cases first
  · rw [same] at first
    cases closed : reading.close trailers with
    | ok done =>
      rw [closed] at first
      cases first
    | error e =>
      rw [closed] at first
      cases first
  · rw [same] at first
    cases first
    exact next

/-- A body makes the call fail, perhaps before its first message, where the headers may not fit; or it
is read to its end. What stands there may crash the call; a message counts if the headers can take up
the trailers, and crashes the call if they cannot. -/
theorem bodyMessage_cases (r : Response) (reading : Reading) :
    (∃ s, r.bodyMessage reading = .error (.failed s)) ∨
    (∃ s, r.firstMessage reading = .error (.failed s) ∧ s.metadata.fits r.headers = false ∧
      r.bodyMessage reading = .error (.crashed .headersFull)) ∨
    ∃ trailers, Stream.drain Wire.Response reading { body := r.body } = .ok trailers ∧
      ((∃ crash, reading.close trailers = .error (.crashed crash) ∧
        r.bodyMessage reading = .error (.crashed crash)) ∨
      ∃ m rest, Stream.next reading { body := r.body } = .ok (.message m rest) ∧
        r.firstMessage reading = .ok (some (m, rest)) ∧
        rest.drain Wire.Response reading = .ok trailers ∧ reading.close trailers = .ok () ∧
        r.bodyMessage reading =
          if r.headers.fits (trailers.getD {}) then .ok m else .error (.crashed .headersFull)) := by
  have onward : Stream.drain Wire.Response reading { body := r.body } = _ :=
    Stream.drain_eq reading { body := r.body }
  have merged {s : Status} (failed : r.firstMessage reading = .error (.failed s)) :
      (∃ s, r.bodyMessage reading = .error (.failed s)) ∨
        s.metadata.fits r.headers = false ∧
          r.bodyMessage reading = .error (.crashed .headersFull) := by
    rw [bodyMessage_of_failed failed]
    cases s.metadata.fits r.headers with
    | true => exact .inl ⟨_, rfl⟩
    | false => exact .inr ⟨rfl, rfl⟩
  rcases firstMessage_cases r reading with
    ⟨s, -, first⟩ | ⟨trailers, next, first⟩ | ⟨m, rest, next, first⟩
  · rcases merged first with fails | ⟨full, crashes⟩
    · exact .inl fails
    · exact .inr (.inl ⟨s, first, full, crashes⟩)
  · rw [next] at onward
    cases closed : reading.close trailers with
    | ok done =>
      rw [closed] at first
      exact .inl ⟨_, bodyMessage_of_none first⟩
    | error e =>
      rw [closed] at first
      cases e with
      | crashed crash =>
        exact .inr (.inr ⟨trailers, onward, .inl ⟨crash, closed, bodyMessage_of_crashed first⟩⟩)
      | failed s =>
        rcases merged first with fails | ⟨full, crashes⟩
        · exact .inl fails
        · exact .inr (.inl ⟨s, first, full, crashes⟩)
  · rw [next] at onward
    have through := bodyMessage_of_some first
    cases drained : rest.drain Wire.Response reading with
    | error s =>
      rw [drained] at through
      exact .inl ⟨s, through⟩
    | ok trailers =>
      rw [drained] at through
      dsimp only at through
      have read := onward.trans drained
      cases closed : reading.close trailers with
      | ok done =>
        rw [closed] at through
        exact .inr (.inr ⟨trailers, read, .inr ⟨m, rest, next, first, drained, closed, through⟩⟩)
      | error e =>
        rw [closed] at through
        cases e with
        | crashed crash => exact .inr (.inr ⟨trailers, read, .inl ⟨crash, closed, through⟩⟩)
        | failed s => exact .inl ⟨s, through⟩

/-- A response that carries these messages and then these trailers, which have to say how the call
ended. The data may be cut anywhere. -/
structure Carries (r : Response) (messages : List Bytes) (trailers : Headers) : Prop where
  silent : r.headers.get? Status.codeHeader = none
  valid : ∀ m ∈ messages, ∃ a : Wire.Response, IsMessage m a
  body : ∃ (chunks : List Bytes) (behind : List BodyFrame),
    r.body = chunks.map .data ++ .trailers trailers :: behind ∧
      chunks.flatten = Stream.framed messages

section Carries

variable {messages : List Bytes} {trailers : Headers}

theorem Carries.gathered (carries : r.Carries messages trailers) :
    Stream.leadingBytes r.body = Stream.framed messages ∧
      Stream.ending r.body = .trailers trailers := by
  obtain ⟨chunks, behind, body, framed⟩ := carries.body
  obtain ⟨bytes, last⟩ := Stream.gather_chunks chunks (.trailers trailers :: behind)
  rw [body, bytes, last, framed]
  exact ⟨List.append_nil _, rfl⟩

/-- Without a message, what the trailers say is what there is. -/
theorem bodyMessage_of_no_message (carries : r.Carries [] trailers) (reading : Reading) :
    r.bodyMessage reading =
      match (reading.close (some trailers)).mergeFailure r.headers with
      | .error e => .error e
      | .ok () => .fail .internal "Missing response message." := by
  obtain ⟨empty, last⟩ := carries.gathered
  rewrite [bodyMessage, firstMessage, Stream.next_body_empty reading empty, last,
    Stream.next_whole_trailers]
  dsimp only
  cases reading.close (some trailers) with
  | ok done => rfl
  | error e =>
    cases e with
    | crashed crash => rfl
    | failed s =>
      dsimp only [Outcome.mergeFailure]
      cases s.metadata.fits r.headers <;> rfl

/-- The first message counts if the trailers say so; the others are read and dropped. -/
theorem bodyMessage_of_first {first : Bytes} {later : List Bytes} {m : Wire.Response}
    (carries : r.Carries (first :: later) trailers) (valid : IsMessage first m)
    (reading : Reading) :
    r.bodyMessage reading =
      match reading.close (some trailers) with
      | .error e => .error e
      | .ok () => if r.headers.fits trailers then .ok m else .error (.crashed .headersFull) := by
  obtain ⟨framed, last⟩ := carries.gathered
  obtain ⟨rest, given, drained⟩ := Stream.next_body_framed reading valid
    (fun m mem => carries.valid m (List.mem_cons_of_mem _ mem)) framed
  have brought : r.firstMessage reading = .ok (some (m, rest)) := by rw [firstMessage, given]
  rw [bodyMessage_of_some brought, drained, last, Stream.drain_whole_trailers]
  rfl

end Carries

/-! ## Replies -/

/-- Where the body gives an error, there is no reply. -/
theorem reply_of_bodyMessage_error {reading : Reading} {e : CallError}
    (read : r.reading = .ok reading) (failed : r.bodyMessage reading = .error e) :
    r.reply = .error e := by
  rw [reply, Response.message, read]
  simp only [failed]

theorem of_message_eq_ok {m : Wire.Response} (brought : r.message = .ok m) :
    ∃ reading, r.reading = .ok reading ∧ r.bodyMessage reading = .ok m := by
  unfold message at brought
  split at brought
  · cases brought
  · next read => exact ⟨_, read, brought⟩

/-- A reply is the payload of a message. -/
theorem reply_eq_ok_iff {reply : String} :
    r.reply = .ok reply ↔ r.message = .ok { data := some { data := reply } } := by
  unfold Response.reply
  constructor
  · intro replied
    split at replied
    · cases replied
    · next brought =>
      cases replied
      exact brought
    · cases replied
  · intro brought
    rw [brought]

end Http.Response

end Courier
