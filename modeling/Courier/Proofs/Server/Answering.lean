import Courier.Proofs.Call.RequestBody
import Courier.Proofs.Call.Stages
import Courier.Server.Recorder

/-!
# What the recording server answers

The server takes the one framed message of a body, answers it by its peer, and frames the answer
or writes its status. A client reads all of this back, so that the way over HTTP gives exactly the
meaning of a request (`reply_answer`).
-/

namespace Courier

open Http (Headers)

/-! ## Meanings -/

/-- The metadata of a failure that came in the headers of an answer: what else stood there. -/
def answerMetadata : Headers := .ofList [(contentTypeHeader, contentType)]

/-- What a request means to its caller, if the trace of its metadata is `trace`. -/
def Request.meaning (r : Request) (trace : String) : Outcome String :=
  if r.peerId = "unreachable" then
    .error (.failed { code := .unavailable, message := "boom", metadata := answerMetadata })
  else if r.peerId = "silent" then .fail .internal "Malformed response: missing payload"
  else if r.peerId = "headers" then .ok trace
  else .ok r.data

/-! ## Records on their way -/

/-- A body that begins with a record of a message gives that record first. -/
theorem next_record {α : Type} [Wire.Record α] [Wire.Overlay α] (reading : Reading) {a : α}
    (deep : Wire.Overlay.depth α ≤ Wire.depthLimit) (short : Wire.Record.size a ≤ messageLimit)
    (body : List BodyFrame) :
    Stream.next reading { body := .data (frameMessage (Wire.Record.encode a)) :: body } =
      .ok (.message a { body }) := by
  have fits : (Wire.Record.encode a).length ≤ messageLimit := by
    rw [Wire.Overlay.length_encode]
    exact short
  have read : Wire.Record.decode (Wire.Record.encode a) = .ok a :=
    Wire.Record.decode_encode deep (Nat.le_trans short (by decide))
  exact Stream.next_frame fits read body

/-- A request whose body is one framed message is received as this message, and only its headers
are the metadata. -/
theorem receive_record {r : Http.Request} {message : Wire.SendRequest}
    (plain : r.headers.get? "grpc-encoding" = none)
    (body : r.body = [.data (frameMessage (Wire.Record.encode message))])
    (short : Wire.Record.size message ≤ messageLimit) :
    r.receive = .ok { message, headers := r.headers } := by
  have first : Stream.next .request { body := r.body } = .ok (.message message { body := [] }) := by
    rw [body]
    exact next_record .request (by decide) short []
  have last : Stream.drain Wire.SendRequest .request { body := [] } = .ok none :=
    Stream.drain_of_finished (Stream.pull_nil _)
  have accepted : encodingFault? r.headers = none := by rw [encodingFault?, plain]
  rw [Http.Request.receive, accepted]
  simp only [first, last]

/-! ## Reading an answer -/

theorem noStatus_answerMetadata : answerMetadata.NoStatus := ⟨by decide, by decide, by decide⟩

theorem encodingFault?_answerMetadata : encodingFault? answerMetadata = none := by decide

/-- The trailers of an answer that holds a message. -/
def okTrailers : Headers := .ofList [(Status.codeHeader, Code.ok.toBytes)]

/-- They say that all went well. -/
theorem close_okTrailers : (Reading.response 200).close (some okTrailers) = .ok () := by
  decide +kernel

/-- Without its status, the headers of the one failure that the server answers with are those that every
answer begins with. -/
theorem others_write_boom :
    Status.others (Status.write { code := .unavailable, message := "boom" } answerMetadata) =
      answerMetadata := by
  decide +kernel

/-- A message that is not too long is framed. -/
theorem responseBody_of_le {message : Bytes} (short : message.length ≤ frameLimit) :
    responseBody message = [.data (frameMessage message), .trailers okTrailers] := by
  rw [responseBody, framingFault?_eq_none_iff.mpr short]
  rfl

theorem length_encode_le_frameLimit {m : Wire.Response}
    (short : Wire.Record.size m ≤ messageLimit) :
    (Wire.Record.encode m).length ≤ frameLimit := by
  rw [Wire.Overlay.length_encode]
  exact Nat.le_trans short (by decide)

/-- A message that the server answers with is the message of its response. -/
theorem message_messageResponse {m : Wire.Response}
    (short : Wire.Record.size m ≤ messageLimit) : (messageResponse m).message = .ok m := by
  have undecided : (messageResponse m).reading = .ok (.response 200) :=
    Http.Response.reading_of_silent encodingFault?_answerMetadata noStatus_answerMetadata.code
  have first : Stream.next (.response 200) { body := (messageResponse m).body } =
      .ok (.message m { body := [.trailers okTrailers] }) := by
    show Stream.next _ { body := responseBody (Wire.Record.encode m) } = _
    rw [responseBody_of_le (length_encode_le_frameLimit short)]
    exact next_record _ (by decide) short _
  have brought : (messageResponse m).firstMessage (.response 200) =
      .ok (some (m, { body := [.trailers okTrailers] })) := by
    rw [Http.Response.firstMessage, first]
  have last : Stream.drain Wire.Response (.response 200) { body := [.trailers okTrailers] } =
      .ok (some okTrailers) :=
    Stream.drain_of_finished (Stream.pull_trailers _ _ _)
  have room : answerMetadata.fits okTrailers = true := by decide +kernel
  rw [Http.Response.message, undecided]
  dsimp only
  rw [Http.Response.bodyMessage_of_some brought, last]
  dsimp only
  rw [close_okTrailers]
  exact if_pos room

/-- The reply in such an answer is its payload, if it has one. -/
theorem reply_messageResponse {m : Wire.Response} (short : Wire.Record.size m ≤ messageLimit) :
    (messageResponse m).reply =
      match m.data with
      | some payload => .ok payload.data
      | none => .fail .internal "Malformed response: missing payload" := by
  rw [Http.Response.reply, message_messageResponse short]
  obtain ⟨data⟩ := m
  cases data with
  | none => rfl
  | some payload => rfl

/-- A failure of the server reaches the caller with its code and message, and what else stands in the
headers of the answer. -/
theorem reply_failureResponse {code : Code} (failed : code ≠ .ok) (message : String) :
    (failureResponse { code, message }).reply =
      .error (.failed
        { code, message
          metadata := Status.others (Status.write { code, message } answerMetadata) }) := by
  have settled : (failureResponse { code, message }).reading =
      .error (.failed
        { code, message
          metadata := Status.others (Status.write { code, message } answerMetadata) }) := by
    have plain : encodingFault? (Status.write { code, message } answerMetadata) = none := by
      rw [encodingFault?, Status.get?_write_of_ne _ (by decide) (by decide)]
      rfl
    show Http.Response.reading { headers := Status.write { code, message } answerMetadata } = _
    rw [Http.Response.reading]
    simp only [plain, Status.read_write noStatus_answerMetadata, if_neg failed]
  rw [Http.Response.reply, Http.Response.message, settled]

/-! ## The meaning of a request -/

/-- An answer that gives back the data of a request is no longer than the request. -/
theorem size_echo_le (r : Request) :
    Wire.Record.size ({ data := some { data := r.data } } : Wire.Response) ≤
      Wire.Record.size r.toWire := by
  let payload : Wire.Payload := { data := r.data }
  let message : Wire.Message := { data := some payload, topic := some r.topic.toWire }
  have inner : Wire.sizeNested 1 (some payload) ≤ Wire.Record.size message :=
    Nat.le_add_right _ _
  have outer : Wire.Record.size message ≤ Wire.sizeNested 2 (some message) := Nat.le_add_left _ _
  have whole : Wire.sizeNested 2 (some message) ≤ Wire.Record.size r.toWire := Nat.le_add_left _ _
  show Wire.sizeNested 1 (some payload) ≤ _
  exact Nat.le_trans inner (Nat.le_trans outer whole)

/-- The answer that shows a trace. -/
def traceResponse (trace : String) : Wire.Response := { data := some { data := trace } }

/-- A request that arrives in one frame is recorded as it was sent, and the reply to it is its
meaning. -/
theorem reply_answer {r : Request} {http : Http.Request} (path : http.path = servicePath)
    (plain : http.headers.get? "grpc-encoding" = none)
    (body : http.body = [.data (frameMessage (Wire.Record.encode r.toWire))])
    (short : Wire.Record.size r.toWire ≤ messageLimit)
    (shortTrace : r.peerId = "headers" →
      Wire.Record.size (traceResponse (traceText http.headers)) ≤ messageLimit) :
    http.recorded? = some r.toWire ∧ http.answer.reply = r.meaning (traceText http.headers) := by
  have received := receive_record plain body short
  have answered : http.answer =
      answerResponse (Received.respond { message := r.toWire, headers := http.headers }) := by
    rw [Http.Request.answer, if_pos path, received]
  refine ⟨?_, ?_⟩
  · rw [Http.Request.recorded?, if_pos path, received]
    rfl
  · rw [answered]
    unfold Received.respond Request.meaning Received.metadata
    rw [Option.getD_none, Headers.extend_empty]
    -- The peer that the server looks at is that of the request.
    show (answerResponse (if r.peerId = "unreachable" then _
      else if r.peerId = "silent" then _ else if r.peerId = "headers" then _ else _)).reply = _
    by_cases unreachable : r.peerId = "unreachable"
    · rw [if_pos unreachable, if_pos unreachable]
      have failed := reply_failureResponse (by decide : Code.unavailable ≠ .ok) "boom"
      rw [others_write_boom] at failed
      exact failed
    · by_cases silent : r.peerId = "silent"
      · rw [if_neg unreachable, if_neg unreachable, if_pos silent, if_pos silent]
        exact reply_messageResponse (Nat.zero_le _)
      · by_cases headers : r.peerId = "headers"
        · rw [if_neg unreachable, if_neg unreachable, if_neg silent, if_neg silent,
            if_pos headers, if_pos headers]
          exact reply_messageResponse (shortTrace headers)
        · rw [if_neg unreachable, if_neg unreachable, if_neg silent, if_neg silent,
            if_neg headers, if_neg headers]
          exact reply_messageResponse (Nat.le_trans (size_echo_le r) short)

end Courier
