import Courier.Proofs.Call.Success
import Courier.Proofs.Http.Crowds

/-!
# Failures behind other failures

A transport may fail before there is a response or while its body is read, and the reason may stand
behind any number of other causes. Either way the call fails with the status that is found in the
chain, or, if there is none, with an unknown one that says what the outermost cause says
(`Call.failsAs_toStatus`). Messages that came before do not count: a body that fails never brings a
reply. Before the first message, the metadata of the status take up the headers of the response; where
these do not fit, the call crashes instead and the status is lost.
-/

namespace Courier

open Http (Headers)

/-! ## Chains of causes -/

namespace Failure

/-- A cause with others around it, which have these texts, the outermost one first. -/
def under (texts : List String) (f : Failure) : Failure := texts.foldr wrapped f

/-- Causes around a cause do not hide its status. -/
theorem status?_under (texts : List String) (f : Failure) :
    (f.under texts).status? = f.status? := by
  induction texts with
  | nil => rfl
  | cons text texts ih => exact ih

theorem toStatus_under_status (texts : List String) (s : Status) :
    (under texts (.status s)).toStatus = s := by
  rw [toStatus, status?_under, status?]

/-- Where there is no status, the outermost text is the message. -/
theorem toStatus_under_because (texts : List String) (text : String) :
    (under texts (.because text)).toStatus =
      { code := .unknown, message := texts.headD text } := by
  rw [toStatus, status?_under, status?]
  cases texts <;> rfl

end Failure

/-- A failure with the code, the message and the details of a status, which shows the message. -/
def CallError.Reports (e : CallError) (s : Status) : Prop :=
  (∃ s', e = .failed s' ∧ s'.code = s.code ∧ s'.message = s.message ∧ s'.details = s.details) ∧
    e.display = s.message

/-! ## Bodies that fail -/

namespace Http.Response

variable {r : Response} {messages : List Bytes} {cause : Failure}

/-- A response that says nothing in its headers and whose body fails behind these messages. The data
may be cut anywhere. -/
structure BreaksOff (r : Response) (messages : List Bytes) (cause : Failure) : Prop where
  plain : r.headers.get? "grpc-encoding" = none
  silent : r.headers.get? Status.codeHeader = none
  valid : ∀ m ∈ messages, ∃ a : Wire.Response, IsMessage m a
  body : ∃ (chunks : List Bytes) (behind : List BodyFrame),
    r.body = chunks.map .data ++ .failure cause :: behind ∧
      chunks.flatten = Stream.framed messages

theorem BreaksOff.gathered (breaks : r.BreaksOff messages cause) :
    Stream.leadingBytes r.body = Stream.framed messages ∧
      Stream.ending r.body = .failure cause := by
  obtain ⟨chunks, behind, body, framed⟩ := breaks.body
  obtain ⟨bytes, last⟩ := Stream.gather_chunks chunks (.failure cause :: behind)
  rw [body, bytes, last, framed]
  exact ⟨List.append_nil _, rfl⟩

/-- Before the first message, the failure is what the body brings. -/
theorem firstMessage_of_breaksOff {reading : Reading} (response : reading ≠ .request)
    (breaks : r.BreaksOff [] cause) :
    r.firstMessage reading = .error (.failed cause.toStatus) := by
  obtain ⟨empty, last⟩ := breaks.gathered
  rw [firstMessage, Stream.next_body_empty reading empty, last, Stream.next_whole_failure response]

/-- The failure is what comes of such a body, whatever came before it. Only the first message could
tell the difference: before it, the headers are added to the metadata, and have to fit. -/
theorem bodyMessage_of_breaksOff {reading : Reading} (response : reading ≠ .request)
    (breaks : r.BreaksOff messages cause)
    (room : messages = [] → cause.toStatus.metadata.fits r.headers = true) :
    ∃ metadata, r.bodyMessage reading = .error (.failed { cause.toStatus with metadata }) := by
  cases messages with
  | nil =>
    refine ⟨cause.toStatus.metadata.extend r.headers, ?_⟩
    rw [bodyMessage_of_failed (firstMessage_of_breaksOff response breaks), if_pos (room rfl)]
    rfl
  | cons first later =>
    obtain ⟨framed, last⟩ := breaks.gathered
    obtain ⟨m, valid⟩ := breaks.valid first List.mem_cons_self
    obtain ⟨rest, given, drained⟩ := Stream.next_body_framed reading valid
      (fun m mem => breaks.valid m (List.mem_cons_of_mem _ mem)) framed
    have brought : r.firstMessage reading = .ok (some (m, rest)) := by rw [firstMessage, given]
    refine ⟨cause.toStatus.metadata, ?_⟩
    rw [bodyMessage_of_some brought, drained, last, Stream.drain_whole_failure response]

/-- How the body is read is up to the trailers, which do not come. -/
theorem BreaksOff.reading (breaks : r.BreaksOff messages cause) :
    r.reading = .ok (.response r.status) :=
  reading_of_silent (by rw [encodingFault?, breaks.plain]) breaks.silent

theorem reply_of_breaksOff (breaks : r.BreaksOff messages cause)
    (room : messages = [] → cause.toStatus.metadata.fits r.headers = true) :
    ∃ e, r.reply = .error e ∧ e.Reports cause.toStatus := by
  have response : Reading.response r.status ≠ .request := nofun
  obtain ⟨metadata, failed⟩ := bodyMessage_of_breaksOff response breaks room
  exact ⟨_, reply_of_bodyMessage_error breaks.reading failed, ⟨_, rfl, rfl, rfl, rfl⟩, rfl⟩

/-- Headers that do not fit into the metadata take the failure with them. -/
theorem reply_of_breaksOff_full (breaks : r.BreaksOff [] cause)
    (full : cause.toStatus.metadata.fits r.headers = false) :
    r.reply = .error (.crashed .headersFull) := by
  have response : Reading.response r.status ≠ .request := nofun
  refine reply_of_bodyMessage_error breaks.reading ?_
  rw [bodyMessage_of_failed (firstMessage_of_breaksOff response breaks), full]
  rfl

end Http.Response

/-! ## Calls -/

/-- A call that fails with a status whenever its transport fails with a cause: instead of a response
or in the body of one, behind any number of messages. Behind none, the metadata of the status take up
the headers of the response, and the call crashes if these do not fit. -/
structure Call.FailsAs (c : Call) (cause : Failure) (s : Status) : Prop where
  atOnce : ∃ e, (c.perform (.failure cause)).outcome = .error e ∧ e.Reports s
  within : ∀ (r : Http.Response) messages, r.BreaksOff messages cause →
    (messages = [] → s.metadata.fits r.headers = true) →
      ∃ e, (c.perform (.response r)).outcome = .error e ∧ e.Reports s
  crowded : ∀ r : Http.Response, r.BreaksOff [] cause → s.metadata.fits r.headers = false →
    (c.perform (.response r)).outcome = .error (.crashed .headersFull)

theorem Call.failsAs_toStatus {c : Call} {http : Http.Request} (handed : c.toHttp = .ok http)
    (cause : Failure) : c.FailsAs cause cause.toStatus where
  atOnce := by
    rw [Call.outcome_of_toHttp handed]
    exact ⟨_, rfl, ⟨_, rfl, rfl, rfl, rfl⟩, rfl⟩
  within := by
    intro r messages breaks room
    rw [Call.outcome_of_toHttp handed]
    exact Http.Response.reply_of_breaksOff breaks room
  crowded := by
    intro r breaks full
    rw [Call.outcome_of_toHttp handed]
    exact Http.Response.reply_of_breaksOff_full breaks full

/-- However many causes stand around a status, a call whose transport fails with it fails with this
status, its code, message and details. Without a status, the code is unknown and the message is the
text of the outermost cause. The one exception are headers that do not fit into the metadata of a
status before the first message: they crash the call, but never with fewer than 6,554 names in both.
No response whose body fails before its trailers brings a reply, whatever messages came before. -/
theorem buried_status_surfaces (c : Call) {http : Http.Request} (handed : c.toHttp = .ok http) :
    (∀ (texts : List String) (s : Status), c.FailsAs (.under texts (.status s)) s) ∧
    (∀ (texts : List String) (text : String), c.FailsAs (.under texts (.because text))
      { code := .unknown, message := texts.headD text }) ∧
    (∀ (s : Status) (r : Http.Response), (s.metadata.names ∪ r.headers.names).card < 6554 →
      s.metadata.fits r.headers = true) ∧
    ∀ (r : Http.Response) (cause : Failure), .failure cause ∈ beforeTrailers r.body →
      ∀ reply, (c.perform (.response r)).outcome ≠ .ok reply := by
  refine ⟨?_, ?_, fun s r few => Headers.fits_of_few few, ?_⟩
  · intro texts s
    have fails := Call.failsAs_toStatus handed (.under texts (.status s))
    rw [Failure.toStatus_under_status] at fails
    exact fails
  · intro texts text
    have fails := Call.failsAs_toStatus handed (.under texts (.because text))
    rw [Failure.toStatus_under_because] at fails
    exact fails
  · intro r cause broken reply succeeded
    rw [Call.outcome_of_toHttp handed] at succeeded
    exact (Http.Response.backs_of_reply succeeded).unbroken cause broken

/-- A status with details, for a failure. -/
def lossStatus : Status := { code := .dataLoss, message := "é \"lost\"\n", details := [0, 255] }

/-- This status behind three other causes. -/
def buriedLoss : Failure := .under ["stream", "", "connection"] (.status lossStatus)

/-- An empty message and an empty payload, cut anywhere, and then a failure. -/
def brokenAnswer : Http.Response :=
  { body :=
      [.data [0, 0], .data [0, 0, 0, 0, 0, 0], .data [0, 2, 10, 0], .failure buriedLoss,
        .trailers goodTrailers] }

theorem broken_answer_surfaces :
    brokenAnswer.BreaksOff [[], [10, 0]] buriedLoss ∧
    (∃ http, Call.toHttp { request := { peerId := "p", data := "d" } } = .ok http) ∧
    (∃ e, (Call.perform { request := { peerId := "p", data := "d" } }
      (.response brokenAnswer)).outcome = .error e ∧ e.Reports lossStatus) ∧
    (∃ e, (Call.perform { request := { peerId := "p", data := "d" } }
      (.failure (.under ["broken", "pipe"] (.because "boom")))).outcome = .error e ∧
        e.Reports { code := .unknown, message := "broken" }) ∧
    ∀ reply, (Call.perform { request := { peerId := "p", data := "d" } }
      (.response brokenAnswer)).outcome ≠ .ok reply := by
  have breaks : brokenAnswer.BreaksOff [[], [10, 0]] buriedLoss := by
    refine ⟨by decide +kernel, by decide +kernel, ?_, ?_⟩
    · intro m mem
      rcases List.mem_pair.mp mem with rfl | rfl
      · exact ⟨{ data := none }, by decide, by decide +kernel⟩
      · exact ⟨{ data := some { data := "" } }, by decide, by decide +kernel⟩
    · exact ⟨[[0, 0], [0, 0, 0, 0, 0, 0], [0, 2, 10, 0]], [.trailers goodTrailers], rfl,
        by decide +kernel⟩
  obtain ⟨http, handed⟩ := Call.toHttp_of_no_options { peerId := "p", data := "d" }
  obtain ⟨found, unknown, -, never⟩ := buried_status_surfaces _ handed
  refine ⟨breaks, ⟨http, handed⟩, (found _ lossStatus).within _ _ breaks nofun, ?_, ?_⟩
  · exact (unknown ["broken", "pipe"] "boom").atOnce
  · refine never brokenAnswer buriedLoss ?_
    exact .tail _ (.tail _ (.tail _ (.head _)))

/-- A status with 12,300 headers of its own. -/
def crowdedStatus : Status :=
  { code := .notFound, message := "m", metadata := numberedHeaders 0 12300 }

/-- A response with 12,300 other headers, whose body fails with this status at once. -/
def crowdedFailure : Http.Response :=
  { headers := numberedHeaders 12300 12300, body := [.failure (.status crowdedStatus)] }

/-- Over this response a call crashes, and the status does not surface. -/
theorem crowded_headers_bury_status :
    crowdedFailure.BreaksOff [] (.under [] (.status crowdedStatus)) ∧
    (∃ http, Call.toHttp { request := { peerId := "p", data := "d" } } = .ok http) ∧
    (Call.perform { request := { peerId := "p", data := "d" } }
      (.response crowdedFailure)).outcome = .error (.crashed .headersFull) := by
  have breaks : crowdedFailure.BreaksOff [] (.under [] (.status crowdedStatus)) :=
    { plain := get?_numberedHeaders _ _ (by decide)
      silent := get?_numberedHeaders _ _ (by decide)
      valid := nofun
      body := ⟨[], [], rfl, rfl⟩ }
  have full : crowdedStatus.metadata.fits crowdedFailure.headers = false := by
    have all := card_numberedHeaders_union 0 12300 12300
    rw [Nat.zero_add] at all
    refine Headers.not_fits_of_many ?_ ?_
    · show (numberedHeaders 0 12300).names.card ≤ 24576
      rw [card_numberedHeaders]
      decide
    · show 24576 < ((numberedHeaders 0 12300).names ∪ (numberedHeaders 12300 12300).names).card
      rw [all]
      decide
  obtain ⟨http, handed⟩ := Call.toHttp_of_no_options { peerId := "p", data := "d" }
  refine ⟨breaks, ⟨http, handed⟩, ?_⟩
  rw [Call.outcome_of_toHttp handed]
  exact Http.Response.reply_of_breaksOff_full breaks full

end Courier
