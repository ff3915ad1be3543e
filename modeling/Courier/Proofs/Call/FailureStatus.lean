import Courier.Proofs.Call.Bodies
import Courier.Proofs.Call.Sending
import Courier.Proofs.Call.Stages
import Courier.Proofs.Http.Crowds
import Courier.Proofs.Text.Percent

/-!
# Failures that a response tells of

A status reaches the caller with its code and its message, however the message is spelled. It may
stand in the headers, and then nothing else is looked at (`reply_of_header_status`), or in the
trailers behind any number of messages, none of which wins over it (`reply_of_trailer_status`).
Before the first message the headers are added to the metadata of the failure, and there is the one
thing that can go wrong: one header map may have no room for both (`reply_of_full_trailers`).
-/

namespace Courier

open Http (Headers)
open Text.Percent (Spells)

/-! ## Statuses in headers -/

/-- Headers that tell a code and a message, in any spelling, and no details. -/
structure Http.Headers.Tells (h : Headers) (code : Code) (message : String) : Prop where
  code : h.get? Status.codeHeader = some code.toBytes
  message : ∃ value, h.get? Status.messageHeader = some value ∧ Spells value (utf8 message)
  details : h.get? Status.detailsHeader = none

/-- A failure with this code and this message, and the message is what is shown of it. -/
def CallError.Says (e : CallError) (code : Code) (message : String) : Prop :=
  (∃ s, e = .failed s ∧ s.code = code ∧ s.message = message) ∧ e.display = message

theorem CallError.says_failed {code : Code} {message : String} (metadata : Headers) :
    (CallError.failed { code, message, metadata }).Says code message :=
  ⟨⟨_, rfl, rfl, rfl⟩, rfl⟩

namespace Status

variable {h : Headers} {code : Code} {message : String}

/-- What headers tell is read, and the other headers are the metadata. -/
theorem read_of_tells (tells : h.Tells code message) :
    read h = .ok (some { code, message, metadata := others h }) := by
  obtain ⟨value, there, spells⟩ := tells.message
  have spelled : readMessage h = .ok message := by
    simp only [readMessage, there, Text.Percent.decode_of_spells spells, Bytes.text?_utf8]
  have noDetails : readDetails h = .ok [] := by rw [readDetails, tells.details]
  rw [read, tells.code]
  simp only [noDetails, spelled, Code.ofBytes_toBytes]
  rfl

/-- A status that was written is told. -/
theorem tells_write (free : h.NoStatus) (filled : message ≠ "") :
    (write { code, message } h).Tells code message where
  code := get?_code_write h code message
  message := by
    refine ⟨Text.Percent.encode (utf8 message), ?_, Text.Percent.spells_encode _⟩
    rw [write_eq, if_neg filled, Headers.get?_insert_self]
  details := by rw [get?_write_of_ne h (by decide) (by decide), free.details]

end Status

/-- Trailers that tell of a failure decide about a response whose headers told of nothing. -/
theorem Reading.close_of_tells {trailers : Headers} {code : Code} {message : String}
    (tells : trailers.Tells code message) (failing : code ≠ .ok) (httpStatus : Nat) :
    (Reading.response httpStatus).close (some trailers) =
      .error (.failed { code, message, metadata := Status.others trailers }) := by
  rw [close, Option.getD_some, Status.read_of_tells tells]
  exact if_neg failing

/-! ## Responses -/

namespace Http.Response

variable {r : Response} {code : Code} {message : String}

/-- A failure in the headers is the failure of the call, whatever follows. -/
theorem reply_of_header_status (plain : encodingFault? r.headers = none)
    (tells : r.headers.Tells code message) (failing : code ≠ .ok) :
    r.reply = .error (.failed { code, message, metadata := Status.others r.headers }) := by
  have settled : r.reading =
      .error (.failed { code, message, metadata := Status.others r.headers }) := by
    rw [reading, plain]
    simp only [Status.read_of_tells tells]
    exact if_neg failing
  rw [reply, Response.message, settled]

section Carries

variable {messages : List Bytes} {trailers : Headers}

/-- A failure behind a message, or one whose metadata fit, reaches the caller. -/
theorem reply_of_trailer_status (plain : encodingFault? r.headers = none)
    (carries : r.Carries messages trailers) (tells : trailers.Tells code message)
    (failing : code ≠ .ok)
    (room : messages ≠ [] ∨ (Status.others trailers).fits r.headers = true) :
    ∃ e, r.reply = .error e ∧ e.Says code message := by
  have read := reading_of_silent plain carries.silent
  have closed := Reading.close_of_tells tells failing r.status
  cases messages with
  | nil =>
    have fits := room.resolve_left (not_not_intro rfl)
    have failed : r.bodyMessage (.response r.status) =
        .error (.failed
          { code, message, metadata := (Status.others trailers).extend r.headers }) := by
      rw [bodyMessage_of_no_message carries, closed]
      simp only [Outcome.mergeFailure, fits, if_true]
      rfl
    exact ⟨_, reply_of_bodyMessage_error read failed, CallError.says_failed _⟩
  | cons first later =>
    obtain ⟨m, valid⟩ := carries.valid first List.mem_cons_self
    have failed : r.bodyMessage (.response r.status) =
        .error (.failed { code, message, metadata := Status.others trailers }) := by
      rw [bodyMessage_of_first carries valid, closed]
    exact ⟨_, reply_of_bodyMessage_error read failed, CallError.says_failed _⟩

/-- Without a message and without room, the call crashes instead. -/
theorem reply_of_full_trailers (plain : encodingFault? r.headers = none)
    (carries : r.Carries [] trailers) (tells : trailers.Tells code message) (failing : code ≠ .ok)
    (full : (Status.others trailers).fits r.headers = false) :
    r.reply = .error (.crashed .headersFull) := by
  have crashes : r.bodyMessage (.response r.status) = .error (.crashed .headersFull) := by
    rw [bodyMessage_of_no_message carries, Reading.close_of_tells tells failing]
    simp only [Outcome.mergeFailure, full]
    rfl
  exact reply_of_bodyMessage_error (reading_of_silent plain carries.silent) crashes

end Carries

end Http.Response

/-! ## Calls -/

/-- A failure that a response tells of is what its call fails with, code and message alike. Only
without a message is there something in the way: the metadata of the failure may not take up the
headers, and then the call crashes. With fewer than 6,554 names they always do. -/
theorem failure_status_is_verbatim (c : Call) (r : Http.Response) {http : Http.Request}
    (sent : (c.perform (.response r)).sent = some http)
    (plain : r.headers.get? "grpc-encoding" = none) (code : Code) (failing : code ≠ .ok)
    (message : String) :
    (r.headers.Tells code message →
      ∃ e, (c.perform (.response r)).outcome = .error e ∧ e.Says code message) ∧
    (∀ messages trailers, r.Carries messages trailers → trailers.Tells code message →
      messages ≠ [] ∨ (Status.others trailers).fits r.headers = true →
        ∃ e, (c.perform (.response r)).outcome = .error e ∧ e.Says code message) ∧
    (∀ trailers, r.Carries [] trailers → trailers.Tells code message →
      (Status.others trailers).fits r.headers = false →
        (c.perform (.response r)).outcome = .error (.crashed .headersFull)) ∧
    ∀ trailers : Headers, (trailers.names ∪ r.headers.names).card < 6554 →
      (Status.others trailers).fits r.headers = true := by
  have outcome : (c.perform (.response r)).outcome = r.reply :=
    Call.outcome_of_toHttp (Call.toHttp_of_sent sent) (.response r)
  have accepted : encodingFault? r.headers = none := by rw [encodingFault?, plain]
  rw [outcome]
  refine ⟨?_, ?_, ?_, ?_⟩
  · intro tells
    exact ⟨_, Http.Response.reply_of_header_status accepted tells failing, CallError.says_failed _⟩
  · intro messages trailers carries tells room
    exact Http.Response.reply_of_trailer_status accepted carries tells failing room
  · intro trailers carries tells full
    exact Http.Response.reply_of_full_trailers accepted carries tells failing full
  · intro trailers few
    refine Headers.fits_of_few (Nat.lt_of_le_of_lt (Finset.card_le_card ?_) few)
    exact Finset.union_subset_union_left (Status.names_others_subset trailers)

/-- Trailers that spell a message with a percent sign, in digits of both cases. -/
def spelledTrailers : Headers :=
  .ofList
    [(Status.codeHeader, utf8 "5"),
      (Status.messageHeader, [0x25, 0x63, 0x33, 0x25, 0x41, 0x39, 0x20, 0x25, 0x32, 0x35])]

/-- An empty message and an empty payload in front of a failure, cut anywhere. -/
def answeredAndFailed : Http.Response :=
  { status := 503
    body :=
      [.data [0, 0], .data [0, 0, 0, 0, 0, 0], .data [0, 2, 10, 0], .trailers spelledTrailers] }

theorem answered_call_fails_verbatim :
    ∃ e, (Call.perform { request := { peerId := "p", data := "d" } }
      (.response answeredAndFailed)).outcome = .error e ∧ e.Says .notFound "é %" := by
  have tells : spelledTrailers.Tells .notFound "é %" := by
    refine ⟨by decide +kernel, ⟨_, rfl, ?_⟩, by decide +kernel⟩
    show Spells _ [0xC3, 0xA9, 0x20, 0x25]
    refine .triple (by decide +kernel) (by decide +kernel) ?_
    refine .triple (by decide +kernel) (by decide +kernel) ?_
    refine .plain (by decide) (by decide) (by decide) ?_
    exact .triple (by decide +kernel) (by decide +kernel) .nil
  have carries : answeredAndFailed.Carries [[], [10, 0]] spelledTrailers := by
    refine ⟨by decide +kernel, ?_, ?_⟩
    · intro m mem
      rcases List.mem_pair.mp mem with rfl | rfl
      · exact ⟨{ data := none }, by decide, by decide +kernel⟩
      · exact ⟨{ data := some { data := "" } }, by decide, by decide +kernel⟩
    · exact ⟨[[0, 0], [0, 0, 0, 0, 0, 0], [0, 2, 10, 0]], [], rfl, by decide +kernel⟩
  obtain ⟨http, handed⟩ := Call.toHttp_of_no_options { peerId := "p", data := "d" }
  have sent : (Call.perform { request := { peerId := "p", data := "d" } }
      (.response answeredAndFailed)).sent = some http := by
    rw [Call.perform_of_toHttp handed (response_ready _)]
  obtain ⟨-, behind, -⟩ := failure_status_is_verbatim _ answeredAndFailed sent
    (by decide +kernel) .notFound (by decide) "é %"
  exact behind _ _ carries tells (.inl (by decide))

/-! ## Responses without room -/

/-- Trailers with a failure and half as many other names as a map has room for. -/
def crowdedTrailers : Headers :=
  Status.write { code := .notFound, message := "m" } (numberedHeaders 12300 12300)

/-- A response whose headers and trailers have more names than one map has room for. -/
def crowdedResponse : Http.Response :=
  { headers := numberedHeaders 0 12300, body := [.trailers crowdedTrailers] }

/-- The failure in such a response does not reach the caller. -/
theorem crowded_trailers_crash_call :
    crowdedResponse.headers.get? "grpc-encoding" = none ∧
    crowdedResponse.Carries [] crowdedTrailers ∧ crowdedTrailers.Tells .notFound "m" ∧
    (∃ http, (Call.perform { request := { peerId := "p", data := "d" } }
      (.response crowdedResponse)).sent = some http) ∧
    (Call.perform { request := { peerId := "p", data := "d" } }
      (.response crowdedResponse)).outcome = .error (.crashed .headersFull) ∧
    ¬(CallError.crashed .headersFull).Says .notFound "m" := by
  have free : (numberedHeaders 12300 12300).NoStatus :=
    ⟨get?_numberedHeaders _ _ (by decide), get?_numberedHeaders _ _ (by decide),
      get?_numberedHeaders _ _ (by decide)⟩
  have plain : crowdedResponse.headers.get? "grpc-encoding" = none :=
    get?_numberedHeaders 0 12300 (by decide)
  have accepted : encodingFault? crowdedResponse.headers = none := by rw [encodingFault?, plain]
  have tells : crowdedTrailers.Tells .notFound "m" := Status.tells_write free (by decide)
  have carries : crowdedResponse.Carries [] crowdedTrailers :=
    { silent := get?_numberedHeaders 0 12300 (by decide)
      valid := fun m mem => absurd mem List.not_mem_nil
      body := ⟨[], [], rfl, rfl⟩ }
  have full : (Status.others crowdedTrailers).fits crowdedResponse.headers = false := by
    have others : (Status.others crowdedTrailers).names = (numberedHeaders 12300 12300).names :=
      Status.names_others_write free
    refine Headers.not_fits_of_many ?_ ?_
    · rw [others, card_numberedHeaders]
      decide
    · have all := card_numberedHeaders_union 0 12300 12300
      rw [Finset.union_comm] at all
      rw [others]
      show 24576 < ((numberedHeaders 12300 12300).names ∪ (numberedHeaders 0 12300).names).card
      rw [all]
      decide
  obtain ⟨http, handed⟩ := Call.toHttp_of_no_options { peerId := "p", data := "d" }
  refine ⟨plain, carries, tells, ⟨http, ?_⟩, ?_, ?_⟩
  · rw [Call.perform_of_toHttp handed (response_ready _)]
  · rw [Call.outcome_of_toHttp handed, Reply.outcome,
      Http.Response.reply_of_full_trailers accepted carries tells (by decide) full]
  · rintro ⟨⟨s, failed, -⟩, -⟩
    cases failed

end Courier
