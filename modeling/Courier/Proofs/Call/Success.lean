import Courier.Proofs.Call.Bodies
import Courier.Proofs.Call.RequestBody
import Courier.Proofs.Call.Stages

/-!
# What a success rests on

A call succeeds only with what its response holds: a status that is good, in the headers or in the
first trailers, and before these trailers a body that begins with one whole message, whose payload
is the reply (`backs_of_reply`). Each condition is read off one stage of reading a response, and
the stages are those of its definition: the headers, the first message, the rest to its end, and
what that end says. Conversely, whole messages with a good status behind them are enough
(`reply_of_answers`).
-/

namespace Courier

open Http (Headers)

/-! ## Before the trailers -/

def BodyFrame.isTrailers : BodyFrame → Bool
  | .data _ => false
  | .trailers _ => true
  | .failure _ => false

/-- The frames of a body before its first trailers. -/
def beforeTrailers (body : List BodyFrame) : List BodyFrame :=
  body.takeWhile fun frame => !frame.isTrailers

/-- In a body that does not fail before its first trailers, all that stands there is data. -/
theorem beforeTrailers_of_unbroken {body : List BodyFrame}
    (unbroken : ∀ cause, Stream.ending body ≠ .failure cause) :
    (∀ cause, .failure cause ∉ beforeTrailers body) ∧
      Http.bodyBytes (beforeTrailers body) = Stream.leadingBytes body := by
  induction body with
  | nil => exact ⟨fun cause mem => (by cases mem), rfl⟩
  | cons frame body ih =>
    cases frame with
    | data bytes =>
      obtain ⟨calm, same⟩ := ih unbroken
      refine ⟨?_, congrArg (bytes ++ ·) same⟩
      intro cause mem
      rcases List.mem_cons.mp mem with first | later
      · cases first
      · exact calm cause later
    | trailers headers => exact ⟨fun cause mem => (by cases mem), rfl⟩
    | failure cause => exact absurd rfl (unbroken cause)

/-! ## What is behind a message -/

/-- Trailers that settle a response hold a good status. -/
theorem Reading.of_close_eq_ok {httpStatus : Nat} {trailers : Option Headers}
    (closed : (Reading.response httpStatus).close trailers = .ok ()) :
    ∃ headers, trailers = some headers ∧
      headers.get? Status.codeHeader = some (utf8 "0") := by
  unfold close at closed
  simp only at closed
  split at closed
  · cases closed
  · cases closed
  · next held =>
    split at closed
    · next good =>
      have present := Status.get?_code_of_read_ok held good
      cases trailers with
      | none => cases present
      | some headers => exact ⟨headers, rfl, present⟩
    · cases closed

namespace Http.Response

variable {r : Response} {reading : Reading}

/-- A body that brings a message and is read to its end begins with that message, holds nothing but
data before its trailers, and these trailers settle it. -/
theorem of_bodyMessage_eq_ok {m : Wire.Response} (response : reading ≠ .request)
    (brought : r.bodyMessage reading = .ok m) :
    (∀ cause, Stream.ending r.body ≠ .failure cause) ∧
      (∃ message left, IsMessage message m ∧
        Stream.leadingBytes r.body = frameMessage message ++ left) ∧
      reading.close (Stream.ending r.body).trailers? = .ok () := by
  rcases bodyMessage_cases r reading with
    ⟨s, same⟩ | ⟨s, -, -, same⟩ |
    ⟨trailers, drained, ⟨crash, -, same⟩ | ⟨m', rest, first, -, -, closed, same⟩⟩
  · rw [same] at brought
    cases brought
  · rw [same] at brought
    cases brought
  · rw [same] at brought
    cases brought
  · rw [same] at brought
    split at brought
    · cases brought
      obtain ⟨message, left, valid, parts, -⟩ := Stream.of_next_body_eq_message first
      rw [Stream.drain_of_gather_eq_whole (Stream.gather_body r.body)] at drained
      obtain ⟨last, unbroken⟩ := Stream.of_drain_whole_eq_ok drained
      rw [last] at closed
      exact ⟨fun cause broken => response (unbroken cause broken),
        ⟨message, left, valid, parts⟩, closed⟩
    · cases brought

/-- What a response has to hold for its reply to count. -/
structure Backs (r : Response) (reply : String) : Prop where
  /-- If the headers hold a status, it is a good one. -/
  header : ∀ value, r.headers.get? Status.codeHeader = some value → value = utf8 "0"
  /-- The body does not fail before its trailers. -/
  unbroken : ∀ cause, .failure cause ∉ beforeTrailers r.body
  /-- The data before the trailers begin with a whole message, whose payload is the reply. -/
  message : ∃ l₁ l₂ l₃ l₄ message left,
    bodyBytes (beforeTrailers r.body) = 0 :: l₁ :: l₂ :: l₃ :: l₄ :: (message ++ left) ∧
    bigEndian l₁ l₂ l₃ l₄ = message.length ∧ message.length ≤ messageLimit ∧
    Wire.Record.decode message = .ok ({ data := some { data := reply } } : Wire.Response)
  /-- If the headers hold no status, the trailers hold a good one. An HTTP status alone is never
  enough. -/
  trailer : r.headers.get? Status.codeHeader = none →
    ∃ trailers, bodyTrailers? r.body = some trailers ∧
      trailers.get? Status.codeHeader = some (utf8 "0")

theorem backs_of_reply {reply : String} (replied : r.reply = .ok reply) : r.Backs reply := by
  obtain ⟨reading, read, brought⟩ := of_message_eq_ok (reply_eq_ok_iff.mp replied)
  have code := of_reading_eq_ok read
  have response : reading ≠ .request := by
    rcases code with ⟨-, rfl⟩ | ⟨-, rfl⟩ <;> simp
  obtain ⟨unbroken, ⟨message, left, valid, parts⟩, closed⟩ := of_bodyMessage_eq_ok response brought
  obtain ⟨calm, bytes⟩ := beforeTrailers_of_unbroken unbroken
  constructor
  · intro value present
    rcases code with ⟨absent, -⟩ | ⟨zero, -⟩
    · rw [absent] at present
      cases present
    · rw [zero] at present
      exact (Option.some.inj present).symm
  · exact calm
  · obtain ⟨l₁, l₂, l₃, l₄, front, length⟩ :=
      frameMessage_eq message (length_lt_of_le_messageLimit valid.short)
    refine ⟨l₁, l₂, l₃, l₄, message, left, ?_, length, valid.short, valid.decodes⟩
    rw [bytes, parts, front]
    rfl
  · intro absent
    rcases code with ⟨-, rfl⟩ | ⟨zero, -⟩
    · rw [Stream.bodyTrailers?_of_unbroken unbroken]
      exact Reading.of_close_eq_ok closed
    · rw [zero] at absent
      cases absent

/-- One body has one first message: if that has no payload, there is no reply. -/
theorem Backs.payload {reply : String} (backs : r.Backs reply) {message left : Bytes}
    {m : Wire.Response} (parts : bodyBytes (beforeTrailers r.body) = frameMessage message ++ left)
    (valid : IsMessage message m) : m = { data := some { data := reply } } := by
  obtain ⟨l₁, l₂, l₃, l₄, message', left', front, length, short, decodes⟩ := backs.message
  have framed : frameMessage message' ++ left' = frameMessage message ++ left := by
    rw [← parts, front, frameMessage_of_length length.symm]
    rfl
  obtain ⟨rfl, -⟩ := frameMessage_append_inj (length_lt_of_le_messageLimit short)
    (length_lt_of_le_messageLimit valid.short) framed
  rw [valid.decodes] at decodes
  exact Except.ok.inj decodes

/-- A response that answers with this reply: whole messages, of which the first has it for its
payload, and trailers that say that all went well and fit into the headers. -/
structure Answers (r : Response) (reply : String) : Prop where
  plain : r.headers.get? "grpc-encoding" = none
  carries : ∃ first later trailers status, r.Carries (first :: later) trailers ∧
    IsMessage first ({ data := some { data := reply } } : Wire.Response) ∧
    Status.read trailers = .ok (some status) ∧ status.code = .ok ∧
    r.headers.fits trailers = true

theorem reply_of_answers {reply : String} (answers : r.Answers reply) : r.reply = .ok reply := by
  obtain ⟨first, later, trailers, status, carries, valid, held, good, room⟩ := answers.carries
  have plain : encodingFault? r.headers = none := by rw [encodingFault?, answers.plain]
  have closed : (Reading.response r.status).close (some trailers) = .ok () := by
    rw [Reading.close, Option.getD_some, held]
    exact if_pos good
  have brought : r.bodyMessage (.response r.status) = .ok { data := some { data := reply } } := by
    rw [bodyMessage_of_first carries valid, closed]
    exact if_pos room
  rw [reply_eq_ok_iff, Response.message, reading_of_silent plain carries.silent]
  exact brought

end Http.Response

/-! ## Calls -/

/-- A call succeeds only over a response that backs its reply. In particular, it never does if the
first message has no payload. Once it was handed over, it does succeed over a response that answers
it. -/
theorem success_is_never_invented (c : Call) (reply : Reply) :
    (∀ s, (c.perform reply).outcome = .ok s →
      ∃ r, reply = .response r ∧ r.Backs s) ∧
    (∀ r message left, reply = .response r →
      Http.bodyBytes (beforeTrailers r.body) = frameMessage message ++ left →
      IsMessage message ({ data := none } : Wire.Response) →
        ∀ s, (c.perform reply).outcome ≠ .ok s) ∧
    (∀ r s http, reply = .response r → (c.perform reply).sent = some http → r.Answers s →
      (c.perform reply).outcome = .ok s) := by
  have backed : ∀ s, (c.perform reply).outcome = .ok s → ∃ r, reply = .response r ∧ r.Backs s := by
    intro s succeeded
    have replied := Call.of_outcome_eq_ok succeeded
    cases reply with
    | notReady cause => cases replied
    | failure cause => cases replied
    | response r => exact ⟨r, rfl, Http.Response.backs_of_reply replied⟩
  refine ⟨backed, ?_, ?_⟩
  · rintro r message left rfl parts valid s succeeded
    obtain ⟨r', same, backs⟩ := backed s succeeded
    cases same
    cases backs.payload parts valid
  · rintro r s http rfl sent answers
    rw [Call.outcome_of_toHttp (Call.toHttp_of_sent sent)]
    exact Http.Response.reply_of_answers answers

/-- Trailers that say that all went well. -/
def goodTrailers : Headers := .ofList [(Status.codeHeader, utf8 "0")]

/-- A good answer under a bad HTTP status: its message is cut, and an empty one follows it. -/
def battered : Http.Response :=
  { status := 503
    body :=
      [.data [0, 0, 0], .data ([0, 9, 10, 7, 10, 5] ++ utf8 "hello" ++ [0, 0]), .data [0, 0, 0],
        .trailers goodTrailers] }

/-- A response whose one field is none that a payload has. -/
def hollow : Http.Response :=
  { headers := .ofList [(Status.codeHeader, utf8 "0")]
    body := [.data [0, 0, 0, 0, 2], .data [16, 5]] }

theorem battered_answer_is_backed :
    (Call.perform { request := { peerId := "p", data := "d" } } (.response battered)).outcome =
      .ok "hello" ∧
    battered.Backs "hello" ∧
    ∀ s, (Call.perform { request := { peerId := "p", data := "d" } }
      (.response hollow)).outcome ≠ .ok s := by
  let call : Call := { request := { peerId := "p", data := "d" } }
  have valid : IsMessage ([10, 7, 10, 5] ++ utf8 "hello")
      ({ data := some { data := "hello" } } : Wire.Response) :=
    ⟨by decide +kernel, by decide +kernel⟩
  have carries : battered.Carries [[10, 7, 10, 5] ++ utf8 "hello", []] goodTrailers := by
    refine ⟨by decide +kernel, ?_, ?_⟩
    · intro m mem
      rcases List.mem_pair.mp mem with rfl | rfl
      · exact ⟨_, valid⟩
      · exact ⟨{ data := none }, by decide, by decide +kernel⟩
    · exact ⟨[[0, 0, 0], [0, 9, 10, 7, 10, 5] ++ utf8 "hello" ++ [0, 0], [0, 0, 0]], [], rfl,
        by decide +kernel⟩
  have answers : battered.Answers "hello" :=
    ⟨by decide +kernel, _, _, _, { code := .ok, metadata := Status.others goodTrailers }, carries,
      valid, by decide +kernel, rfl, by decide +kernel⟩
  obtain ⟨http, handed⟩ := Call.toHttp_of_no_options { peerId := "p", data := "d" }
  have sent : (call.perform (.response battered)).sent = some http := by
    rw [Call.perform_of_toHttp handed (response_ready _)]
  obtain ⟨backed, -, succeeds⟩ := success_is_never_invented call (.response battered)
  have success := succeeds battered "hello" http rfl sent answers
  obtain ⟨r, same, backs⟩ := backed "hello" success
  cases same
  have framed : Http.bodyBytes (beforeTrailers hollow.body) = frameMessage [16, 5] ++ [] := by
    decide +kernel
  have empty : IsMessage [16, 5] ({ data := none } : Wire.Response) :=
    ⟨by decide +kernel, by decide +kernel⟩
  obtain ⟨-, never, -⟩ := success_is_never_invented call (.response hollow)
  exact ⟨success, backs, never hollow [16, 5] [] rfl framed empty⟩

end Courier
