import Courier.Proofs.Call.BodyFailures
import Courier.Proofs.Call.Sending
import Courier.Proofs.Call.Stages

/-!
# When a call crashes

A call that reached its transport should succeed or fail with a status. Two kinds of responses
crash it instead. A status whose details are not base64 cannot be read, wherever it is looked for
(`reply_of_undecodable`), and two header maps that are put together may not fit (`Crowded`,
`reply_of_crowded`). There are no others (`of_reply_eq_crashed`): everything else that a response can
hold ends in a status. No response with fewer than 6,554 names is crowded (`not_crowded_of_few`).
-/

namespace Courier

open Http (Headers)

/-! ## What the end of a body says -/

theorem metadata_inferredStatus (httpStatus : Nat) : (inferredStatus httpStatus).metadata = {} := by
  show (if httpStatus = 200 then _ else _ : Status).metadata = {}
  split <;> rfl

namespace Reading

variable {reading : Reading} {trailers : Option Headers}

/-- The end of a body crashes only over details in its trailers. -/
theorem of_close_eq_crashed {crash : Crash}
    (crashes : reading.close trailers = .error (.crashed crash)) :
    ∃ fault headers, crash = .malformedDetails fault ∧ trailers = some headers ∧
      headers.BadDetails fault := by
  unfold close at crashes
  split at crashes
  · cases crashes
  · cases crashes
  · split at crashes
    · next unread =>
      cases crashes
      obtain ⟨fault, rfl, bad⟩ := Status.read_eq_error_iff.mp unread
      cases trailers with
      | none => exact absurd rfl bad.code
      | some headers => exact ⟨fault, headers, rfl, rfl, bad⟩
    · cases crashes
    · split at crashes <;> cases crashes

theorem close_of_badDetails {headers : Headers} {fault : Text.Base64.Fault}
    (bad : headers.BadDetails fault) (httpStatus : Nat) :
    (Reading.response httpStatus).close (some headers) =
      .error (.crashed (.malformedDetails fault)) := by
  have unread := Status.read_eq_error_iff.mpr ⟨fault, rfl, bad⟩
  rw [close, Option.getD_some, unread]

/-- A failure at the end of a body has metadata from the trailers only. -/
theorem names_of_close_eq_failed {s : Status}
    (failed : reading.close trailers = .error (.failed s)) :
    s.metadata.names ⊆ (trailers.getD {}).names := by
  unfold close at failed
  split at failed
  · cases failed
  · cases failed
  · split at failed
    · cases failed
    · cases failed
      rw [metadata_inferredStatus]
      exact Finset.empty_subset _
    · next held =>
      split at failed
      · cases failed
      · cases failed
        rw [(Status.of_read_eq_some held).2]
        exact Status.names_others_subset _

end Reading

/-! ## Responses -/

/-- The names in the header maps that a frame brings along. -/
def BodyFrame.names : BodyFrame → Finset String
  | .data _ => ∅
  | .trailers headers => headers.names
  | .failure cause => cause.toStatus.metadata.names

theorem Http.mem_of_bodyTrailers?_eq_some {body : List BodyFrame} {trailers : Headers}
    (found : bodyTrailers? body = some trailers) : .trailers trailers ∈ body := by
  induction body with
  | nil => cases found
  | cons frame body ih =>
    cases frame with
    | data bytes => exact List.mem_cons_of_mem _ (ih found)
    | trailers headers =>
      cases found
      exact List.mem_cons_self
    | failure cause => exact List.mem_cons_of_mem _ (ih found)

namespace Http.Response

variable {r : Response} {reading : Reading} {fault : Text.Base64.Fault}

/-- A response whose status cannot be read: it stands in the headers, or the headers have none and
the body is read to trailers that have it. -/
inductive Undecodable (r : Response) (fault : Text.Base64.Fault) : Prop
  | headers (plain : encodingFault? r.headers = none) (bad : r.headers.BadDetails fault)
  | trailers {trailers : Headers} (plain : encodingFault? r.headers = none)
      (silent : r.headers.get? Status.codeHeader = none)
      (read : Stream.drain Wire.Response (.response r.status) { body := r.body } =
        .ok (some trailers))
      (bad : trailers.BadDetails fault)

/-- A response whose header maps do not fit together: the metadata of a failure before its first
message cannot take up the headers, or the headers of a good answer cannot take up the trailers. -/
inductive Crowded (r : Response) : Prop
  | failure {reading : Reading} {s : Status} (read : r.reading = .ok reading)
      (failed : r.firstMessage reading = .error (.failed s))
      (full : s.metadata.fits r.headers = false)
  | trailers {reading : Reading} {m : Wire.Response} {rest : Stream} {trailers : Option Headers}
      (read : r.reading = .ok reading) (first : r.firstMessage reading = .ok (some (m, rest)))
      (drained : rest.drain Wire.Response reading = .ok trailers)
      (good : reading.close trailers = .ok ())
      (full : r.headers.fits (trailers.getD {}) = false)

/-- Headers that let the body be read leave it to a response. -/
theorem reading_ne_request (read : r.reading = .ok reading) : reading ≠ .request := by
  rcases of_reading_eq_ok read with ⟨-, rfl⟩ | ⟨-, rfl⟩ <;> nofun

/-- A body that makes the call crash is crowded, or it is read to its end, where the crash is. -/
theorem of_bodyMessage_eq_crashed {crash : Crash} (read : r.reading = .ok reading)
    (crashes : r.bodyMessage reading = .error (.crashed crash)) :
    crash = .headersFull ∧ r.Crowded ∨
    ∃ trailers, Stream.drain Wire.Response reading { body := r.body } = .ok trailers ∧
      reading.close trailers = .error (.crashed crash) := by
  rcases bodyMessage_cases r reading with
    ⟨s, same⟩ | ⟨s, failed, full, same⟩ |
    ⟨trailers, drained, ⟨crash', closed, same⟩ | ⟨m, rest, -, first, behind, good, same⟩⟩
  · rw [same] at crashes
    cases crashes
  · rw [same] at crashes
    cases crashes
    exact .inl ⟨rfl, .failure read failed full⟩
  · rw [same] at crashes
    cases crashes
    exact .inr ⟨trailers, drained, closed⟩
  · rw [same] at crashes
    split at crashes
    · cases crashes
    · next full =>
      cases crashes
      exact .inl ⟨rfl, .trailers read first behind good (Bool.eq_false_of_not_eq_true full)⟩

/-- A status that cannot be read crashes the call. -/
theorem reply_of_undecodable (undecodable : r.Undecodable fault) :
    r.reply = .error (.crashed (.malformedDetails fault)) := by
  cases undecodable with
  | headers plain bad =>
    rw [reply, message, reading_of_badDetails plain bad]
  | @trailers trailers plain silent read bad =>
    have crashes := Reading.close_of_badDetails bad r.status
    refine reply_of_bodyMessage_error (reading_of_silent plain silent) ?_
    -- The trailers are read with a message in front of them or without one.
    rw [Stream.drain_eq] at read
    rcases firstMessage_cases r (.response r.status) with
      ⟨s, next, -⟩ | ⟨trailers', next, first⟩ | ⟨m, rest, next, first⟩
    · rw [next] at read
      cases read
    · rw [next] at read
      cases read
      rw [crashes] at first
      exact bodyMessage_of_crashed first
    · rw [next] at read
      dsimp only at read
      rw [bodyMessage_of_some first, read]
      simp only [crashes]

/-- Header maps that do not fit together crash the call. -/
theorem reply_of_crowded (crowded : r.Crowded) : r.reply = .error (.crashed .headersFull) := by
  cases crowded with
  | failure read failed full =>
    refine reply_of_bodyMessage_error read ?_
    rw [bodyMessage_of_failed failed, full]
    rfl
  | trailers read first drained good full =>
    refine reply_of_bodyMessage_error read ?_
    rw [bodyMessage_of_some first, drained]
    simp only [good, full]
    rfl

/-- There is no other reason for a crash. -/
theorem of_reply_eq_crashed {crash : Crash} (crashes : r.reply = .error (.crashed crash)) :
    (∃ fault, crash = .malformedDetails fault ∧ r.Undecodable fault) ∨
      crash = .headersFull ∧ r.Crowded := by
  have through : r.message = .error (.crashed crash) := by
    unfold reply at crashes
    split at crashes
    · next brought =>
      cases crashes
      exact brought
    · cases crashes
    · cases crashes
  unfold message at through
  rcases reading_cases r with
    ⟨s, read⟩ | ⟨plain, fault, bad, read⟩ | ⟨plain, silent, read⟩ | ⟨-, read⟩
  · rw [read] at through
    cases through
  · rw [read] at through
    cases through
    exact .inl ⟨fault, rfl, .headers plain bad⟩
  · rw [read] at through
    rcases of_bodyMessage_eq_crashed read through with crowded | ⟨trailers, drained, closed⟩
    · exact .inr crowded
    · obtain ⟨fault, headers, rfl, rfl, bad⟩ := Reading.of_close_eq_crashed closed
      exact .inl ⟨fault, rfl, .trailers plain silent drained bad⟩
  · rw [read] at through
    rcases of_bodyMessage_eq_crashed read through with crowded | ⟨trailers, -, closed⟩
    · exact .inr crowded
    · cases closed

/-! ## Few names -/

/-- No name stands in the headers or in the body that is not one of these. -/
structure NamedBy (r : Response) (names : Finset String) : Prop where
  headers : r.headers.names ⊆ names
  body : ∀ frame ∈ r.body, frame.names ⊆ names

variable {names : Finset String}

theorem NamedBy.trailers (named : r.NamedBy names) :
    ((bodyTrailers? r.body).getD {}).names ⊆ names := by
  cases found : bodyTrailers? r.body with
  | none => exact Finset.empty_subset _
  | some trailers => exact named.body _ (mem_of_bodyTrailers?_eq_some found)

/-- What fails before the first message has no other names either. -/
theorem NamedBy.metadata (named : r.NamedBy names) (response : reading ≠ .request) {s : Status}
    (failed : r.firstMessage reading = .error (.failed s)) : s.metadata.names ⊆ names := by
  have onward : Stream.drain Wire.Response reading { body := r.body } = _ :=
    Stream.drain_eq reading { body := r.body }
  rcases firstMessage_cases r reading with
    ⟨s', next, first⟩ | ⟨trailers, next, first⟩ | ⟨m, rest, -, first⟩
  · rw [first] at failed
    cases failed
    rcases Stream.comesOf_of_next_eq_error next with plain | ⟨cause, mem, rfl⟩
    · rw [plain.metadata]
      exact Finset.empty_subset _
    · exact named.body _ mem
  · rw [next] at onward
    rw [first] at failed
    have closed : reading.close trailers = .error (.failed s) := by
      cases closing : reading.close trailers with
      | ok done =>
        rw [closing] at failed
        cases failed
      | error e =>
        rw [closing] at failed
        cases failed
        rfl
    rw [Stream.trailers_of_drain response onward] at closed
    exact (Reading.names_of_close_eq_failed closed).trans named.trailers
  · rw [first] at failed
    cases failed

/-- Fewer than 6,554 names fit together, whatever their hashes are. -/
theorem not_crowded_of_few (named : r.NamedBy names) (few : names.card < 6554) : ¬r.Crowded := by
  have together {h h' : Headers} (known : h.names ⊆ names) (known' : h'.names ⊆ names) :
      h.fits h' = true :=
    Headers.fits_of_few
      (Nat.lt_of_le_of_lt (Finset.card_le_card (Finset.union_subset known known')) few)
  intro crowded
  cases crowded with
  | failure read failed full =>
    rw [together (named.metadata (reading_ne_request read) failed) named.headers] at full
    cases full
  | @trailers reading m rest trailers read first drained good full =>
    have onward := Stream.drain_eq (α := Wire.Response) reading { body := r.body }
    rw [next_of_firstMessage first] at onward
    have last := Stream.trailers_of_drain (reading_ne_request read) (onward.trans drained)
    rw [last, together named.headers named.trailers] at full
    cases full

end Http.Response

/-! ## Calls -/

/-- Over a response that can be read and is not crowded, a call that was handed over succeeds or fails
with a status; any other response crashes it. Without a deadline a call is handed over exactly as long
as its headers have room, and fewer than 6,552 names always have it. -/
theorem crash_needs_unreadable_response (c : Call) (unhurried : c.options.timeout = none)
    (reply : Reply) :
    (c.options.HasRoom →
      ((∃ s, (c.perform reply).outcome = .ok s) ∨
        (∃ status, (c.perform reply).outcome = .error (.failed status)) ∨
        ∃ r, reply = .response r ∧
          ((∃ fault, r.Undecodable fault ∧
            (c.perform reply).outcome = .error (.crashed (.malformedDetails fault))) ∨
          (r.Crowded ∧ (c.perform reply).outcome = .error (.crashed .headersFull)))) ∧
      (∀ r fault, reply = .response r → r.Undecodable fault →
        (c.perform reply).outcome = .error (.crashed (.malformedDetails fault))) ∧
      (∀ r, reply = .response r → r.Crowded →
        (c.perform reply).outcome = .error (.crashed .headersFull))) ∧
    (¬c.options.HasRoom → (∀ cause, reply ≠ .notReady cause) →
      c.perform reply = { sent := none, outcome := .error (.crashed .headersFull) }) ∧
    (c.options.headers.names.card < 6552 → c.options.HasRoom) ∧
    (∀ r names, reply = .response r → r.NamedBy names → names.card < 6554 → ¬r.Crowded) := by
  have brief : c.options.IsBrief := by
    intro d set
    rw [unhurried] at set
    cases set
  refine ⟨?_, ?_, Options.hasRoom_of_few, ?_⟩
  · intro room
    obtain ⟨http, handed, -⟩ := Call.toHttp_of_room brief room
    rw [Call.outcome_of_toHttp handed reply]
    refine ⟨?_, ?_, ?_⟩
    · cases outcome : reply.outcome with
      | ok s => exact .inl ⟨s, rfl⟩
      | error e =>
        right
        cases e with
        | failed status => exact .inl ⟨status, rfl⟩
        | crashed crash =>
          right
          cases reply with
          | notReady cause => cases outcome
          | failure cause => cases outcome
          | response r =>
            refine ⟨r, rfl, ?_⟩
            rcases Http.Response.of_reply_eq_crashed outcome with
              ⟨fault, rfl, undecodable⟩ | ⟨rfl, crowded⟩
            · exact .inl ⟨fault, undecodable, rfl⟩
            · exact .inr ⟨crowded, rfl⟩
    · rintro r fault rfl undecodable
      exact Http.Response.reply_of_undecodable undecodable
    · rintro r rfl crowded
      exact Http.Response.reply_of_crowded crowded
  · intro crowded ready
    exact Call.perform_of_crowded brief crowded ready
  · rintro r names rfl named few
    exact Http.Response.not_crowded_of_few named few

/-- Trailers with a good status, which has details of one symbol. -/
def spoiledTrailers : Headers :=
  .ofList [(Status.codeHeader, utf8 "0"), (Status.detailsHeader, utf8 "A")]

/-- A good answer in front of such trailers. -/
def spoiledAnswer : Http.Response :=
  { body := [.data (frameMessage [10, 4, 10, 2, 104, 105]), .trailers spoiledTrailers] }

theorem spoiled_answer_crashes_call :
    (Call.perform { request := { peerId := "p", data := "d" } } (.response spoiledAnswer)).outcome =
      .error (.crashed (.malformedDetails (.invalidLength 1))) := by
  have bad : spoiledTrailers.BadDetails (.invalidLength 1) :=
    ⟨by decide +kernel, utf8 "A", by decide +kernel, by decide +kernel⟩
  have read : Stream.drain Wire.Response (.response spoiledAnswer.status)
      { body := spoiledAnswer.body } = .ok (some spoiledTrailers) := by decide +kernel
  have undecodable : spoiledAnswer.Undecodable (.invalidLength 1) :=
    .trailers (by decide +kernel) (by decide +kernel) read bad
  have unhurried : ({} : Options).timeout = none := rfl
  obtain ⟨handed, -, few, -⟩ := crash_needs_unreadable_response
    { request := { peerId := "p", data := "d" } } unhurried (.response spoiledAnswer)
  obtain ⟨-, crashes, -⟩ := handed (few (by decide))
  exact crashes spoiledAnswer _ rfl undecodable

/-- A failure with details that are not base64. -/
def garbledFailure : Http.Response :=
  { headers :=
      .ofList
        [(Status.codeHeader, utf8 "3"), (Status.messageHeader, utf8 "d"),
          (Status.detailsHeader, utf8 "!")] }

/-- The failure does not reach the caller: the call crashes. -/
theorem garbled_failure_crashes_call :
    (Call.perform { request := { peerId := "p", data := "d" } }
      (.response garbledFailure)).outcome =
        .error (.crashed (.malformedDetails (.invalidByte 0 33))) := by
  decide +kernel

end Courier
