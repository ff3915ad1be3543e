import Courier.Proofs.Call.FailureStatus
import Courier.Proofs.Call.Success
import Courier.Proofs.Server.Refusals

/-!
# One verdict per answer

`result_cases` lists what can come of a raw request: it is refused, it is recorded and answered, or the
server crashes over trailers that its headers have no room for. A refusal may need room as well, but
not that of a body of data and trailers. An answer either refuses or
brings a message (`answer_cases`), and both say exactly once how the call ended: in the headers or
the trailers, and without data unless all went well (`every_answer_has_one_verdict`).
-/

namespace Courier

open Http (Headers)

/-! ## What is received -/

/-- A body whose frames are data and trailers does not end with a failure. -/
theorem Unbroken.ending_ne {body : List BodyFrame} (unbroken : Unbroken body) (cause : Failure) :
    Stream.ending body ≠ .failure cause := by
  induction body with
  | nil => nofun
  | cons frame body ih =>
    cases frame with
    | data bytes => exact ih fun cause mem => unbroken cause (List.mem_cons_of_mem _ mem)
    | trailers headers => nofun
    | failure cause' => exact absurd List.mem_cons_self (unbroken cause')

namespace Http.Request

variable {r : Request} {received : Received}

/-- What is received is the first message of the body and the headers; the body is read to its
end. -/
theorem of_receive_eq_ok (accepted : r.receive = .ok received) :
    received.headers = r.headers ∧
      ∃ message left, IsMessage message received.message ∧
        Stream.leadingBytes r.body = frameMessage message ++ left ∧
        (Stream.whole left (Stream.ending r.body)).drain Wire.SendRequest .request =
          .ok received.trailers := by
  unfold receive at accepted
  split at accepted
  · cases accepted
  · split at accepted
    · cases accepted
    · cases accepted
    · next first =>
      split at accepted
      · cases accepted
      · next drained =>
        cases accepted
        obtain ⟨message, left, valid, parts, gathered⟩ := Stream.of_next_body_eq_message first
        rw [Stream.drain_of_gather_eq_whole gathered] at drained
        exact ⟨rfl, message, left, valid, parts, drained⟩

/-- The trailers that are received are the first ones of the body. -/
theorem trailers_of_receive (unbroken : Unbroken r.body) (accepted : r.receive = .ok received) :
    received.trailers = bodyTrailers? r.body := by
  obtain ⟨-, message, left, -, -, drained⟩ := of_receive_eq_ok accepted
  obtain ⟨last, -⟩ := Stream.of_drain_whole_eq_ok drained
  rw [last, Stream.bodyTrailers?_of_unbroken unbroken.ending_ne]

/-- A request whose headers have no room for its first trailers. -/
def Crowded (r : Request) : Prop :=
  ∃ trailers, bodyTrailers? r.body = some trailers ∧ r.headers.fits trailers = false

theorem not_crowded_of_few
    (few : (r.headers.names ∪ ((bodyTrailers? r.body).getD {}).names).card < 6554) :
    ¬r.Crowded := by
  rintro ⟨trailers, last, full⟩
  rw [last, Option.getD_some] at few
  rw [Headers.fits_of_few few] at full
  cases full

theorem fits_eq_false_iff (unbroken : Unbroken r.body) (accepted : r.receive = .ok received) :
    received.fits = false ↔ r.Crowded := by
  obtain ⟨headers, -⟩ := of_receive_eq_ok accepted
  rw [Received.fits, headers, trailers_of_receive unbroken accepted, Crowded]
  cases bodyTrailers? r.body with
  | none => exact iff_of_false nofun nofun
  | some trailers =>
    constructor
    · exact fun full => ⟨trailers, rfl, full⟩
    · rintro ⟨_, ⟨⟩, full⟩
      exact full

/-! ## What comes of it -/

/-- A request is refused, as far as the headers of the answer have room for the status, or it is
received. Then it is recorded and answered, as far as its headers take up its trailers. -/
theorem result_cases (r : Request) :
    (r.recorded? = none ∧ (r.result = .ok unknownMethodResponse ∨
      ∃ s, r.receive = .error s ∧
        r.result =
          if s.hasRoom answerHeaders then .ok (failureResponse s) else .error .headersFull)) ∨
    ∃ received, r.path = servicePath ∧ r.receive = .ok received ∧
      ((r.recorded? = some received.message ∧ r.result = .ok (answerResponse received.respond)) ∨
        (received.fits = false ∧ r.recorded? = none ∧ r.result = .error .headersFull)) := by
  unfold result crash? answer recorded?
  by_cases path : r.path = servicePath
  · rw [if_pos path, if_pos path, if_pos path]
    cases r.receive with
    | error s =>
      refine .inl ⟨rfl, .inr ⟨s, rfl, ?_⟩⟩
      dsimp only
      cases s.hasRoom answerHeaders <;> rfl
    | ok received =>
      refine .inr ⟨received, path, rfl, ?_⟩
      dsimp only
      cases received.fits with
      | true => exact .inl ⟨rfl, rfl⟩
      | false => exact .inr ⟨rfl, rfl, rfl⟩
  · rw [if_neg path, if_neg path, if_neg path]
    exact .inl ⟨rfl, .inl rfl⟩

end Http.Request

/-- Only the silent peer gets an answer without a payload. -/
theorem Received.data_of_respond {received : Received} {m : Wire.Response}
    (answered : received.respond = .ok m) :
    m.data = none ↔ received.message.peerId = "silent" := by
  unfold respond at answered
  split at answered
  · cases answered
  · split at answered
    · next silent =>
      cases answered
      exact iff_of_true rfl silent
    · next loud =>
      have payload : m.data ≠ none := by
        split at answered <;>
        · cases answered
          exact Option.some_ne_none _
      exact iff_of_false payload loud

/-! ## Answers -/

theorem Status.values_write (s : Status) (h : Headers) :
    (s.write h).values codeHeader = [s.code.toBytes] := by
  have once : Headers.valuesIn codeHeader s.entries = [s.code.toBytes] := by
    unfold entries
    split <;> split <;> rfl
  rw [write, Headers.values_insertAll, once]
  rfl

theorem Code.toBytes_ne {code : Code} (failed : code ≠ .ok) : code.toBytes ≠ Code.ok.toBytes := by
  intro same
  have read := congrArg Code.ofBytes same
  rw [Code.ofBytes_toBytes, Code.ofBytes_toBytes] at read
  exact failed read

namespace Http.Response

/-- What a response says about how the call ended: all values of the status code, in its headers and
in its trailers. -/
def verdicts (a : Response) : List Bytes :=
  a.headers.values Status.codeHeader ++
    a.body.flatMap fun
      | .data _ => []
      | .trailers headers => headers.values Status.codeHeader
      | .failure _ => []

/-- A response that says once that the call failed, and no more. -/
structure Refuses (a : Response) : Prop where
  http : a.status = 200
  verdict : ∃ code : Code, code ≠ .ok ∧ a.verdicts = [code.toBytes]
  empty : ∀ bytes, .data bytes ∉ a.body

/-- A response that holds a message and says in its trailers that all went well. -/
structure Brings (a : Response) (m : Wire.Response) : Prop where
  http : a.status = 200
  silent : a.headers.values Status.codeHeader = []
  body : a.body = [.data (frameMessage (Wire.Record.encode m)), .trailers okTrailers]
  short : (Wire.Record.encode m).length ≤ frameLimit

theorem Brings.verdicts_eq {a : Response} {m : Wire.Response} (brings : a.Brings m) :
    a.verdicts = [Code.ok.toBytes] := by
  rw [verdicts, brings.silent, brings.body]
  rfl

theorem Refuses.verdicts_ne {a : Response} (refuses : a.Refuses) :
    a.verdicts ≠ [Code.ok.toBytes] := by
  obtain ⟨code, failed, said⟩ := refuses.verdict
  rw [said]
  exact fun same => Code.toBytes_ne failed (List.cons.inj same).1

end Http.Response

theorem refuses_failureResponse {s : Status} (failed : s.code ≠ .ok) :
    (failureResponse s).Refuses where
  http := rfl
  verdict := by
    refine ⟨s.code, failed, ?_⟩
    show (s.write answerMetadata).values Status.codeHeader ++ [] = _
    rw [List.append_nil, Status.values_write]
  empty := nofun

theorem refuses_unknownMethodResponse : unknownMethodResponse.Refuses where
  http := rfl
  verdict := ⟨.unimplemented, by decide, by decide⟩
  empty := nofun

/-- A message that cannot be framed is a refusal in the trailers. -/
theorem messageResponse_cases (m : Wire.Response) :
    (messageResponse m).Refuses ∨ (messageResponse m).Brings m := by
  have silent : (messageResponse m).headers.values Status.codeHeader = [] := rfl
  cases faulty : framingFault? (Wire.Record.encode m) with
  | none =>
    have short := framingFault?_eq_none_iff.mp faulty
    exact .inr ⟨rfl, silent, responseBody_of_le short, short⟩
  | some status =>
    left
    have body : (messageResponse m).body = [.trailers (status.write {})] := by
      rw [messageResponse, responseBody, faulty]
    refine ⟨rfl, ⟨status.code, (of_framingFault? faulty).1.failed, ?_⟩, ?_⟩
    · rw [Http.Response.verdicts, silent, body, List.flatMap_singleton, List.nil_append]
      exact Status.values_write status {}
    · rw [body]
      simp

/-- An answer to a request that does not break off refuses it, or brings what the server responds to
a request that it has recorded. -/
theorem Http.Request.answer_cases {r : Http.Request} (unbroken : Unbroken r.body)
    {a : Http.Response} (answered : r.result = .ok a) :
    a.Refuses ∨ ∃ received m, r.path = servicePath ∧ r.receive = .ok received ∧
      r.recorded? = some received.message ∧ received.respond = .ok m ∧ a.Brings m := by
  rcases r.result_cases with
    ⟨-, unknown | ⟨s, refused, failed⟩⟩ |
    ⟨received, path, accepted, ⟨recorded, responded⟩ | ⟨-, -, crashed⟩⟩
  · rw [unknown] at answered
    cases answered
    exact .inl refuses_unknownMethodResponse
  · have own := isOwn_of_receive_eq_error unbroken refused
    rw [failed, if_pos (Status.hasRoom_of_isOwn own)] at answered
    cases answered
    exact .inl (refuses_failureResponse own.failed)
  · rw [responded] at answered
    cases answered
    cases answer : received.respond with
    | error s =>
      have failed : s.code ≠ .ok := by
        unfold Received.respond at answer
        split at answer
        · cases answer
          decide
        · split at answer
          · cases answer
          · split at answer <;> cases answer
      exact .inl (refuses_failureResponse failed)
    | ok m =>
      rcases messageResponse_cases m with refuses | brings
      · exact .inl refuses
      · exact .inr ⟨received, m, path, accepted, recorded, answer, brings⟩
  · rw [crashed] at answered
    cases answered

/-! ## The law -/

/-- An answer with one verdict and a body that matches it, if `recorded?` is what the server has
recorded of the request. -/
structure Http.Response.OneVerdict (a : Http.Response) (recorded? : Option Wire.SendRequest) :
    Prop where
  http : a.status = 200
  verdict : ∃ value, a.verdicts = [value]
  /-- There are data exactly if all went well. -/
  data : (∃ bytes, .data bytes ∈ a.body) ↔ a.verdicts = [utf8 "0"]
  /-- Then the trailers say so, and the data are one framed message, whose payload is missing
  exactly if the recorded peer is the silent one. -/
  message : a.verdicts = [utf8 "0"] →
    (∃ trailers, Http.bodyTrailers? a.body = some trailers ∧
      trailers.values Status.codeHeader = [utf8 "0"]) ∧
    ∃ l₁ l₂ l₃ l₄ message m recorded,
      Http.bodyBytes a.body = 0 :: l₁ :: l₂ :: l₃ :: l₄ :: message ∧
      bigEndian l₁ l₂ l₃ l₄ = message.length ∧
      Wire.Record.decode message = .ok (m : Wire.Response) ∧
      recorded? = some recorded ∧ (m.data = none ↔ recorded.peerId = "silent")

theorem Http.Response.Refuses.oneVerdict {a : Http.Response} (refuses : a.Refuses)
    (recorded? : Option Wire.SendRequest) : a.OneVerdict recorded? where
  http := refuses.http
  verdict := by
    obtain ⟨code, -, said⟩ := refuses.verdict
    exact ⟨_, said⟩
  data := iff_of_false (fun ⟨bytes, mem⟩ => refuses.empty bytes mem) refuses.verdicts_ne
  message good := absurd good refuses.verdicts_ne

theorem Http.Response.Brings.oneVerdict {a : Http.Response} {m : Wire.Response}
    (brings : a.Brings m) {recorded : Wire.SendRequest}
    (payload : m.data = none ↔ recorded.peerId = "silent") : a.OneVerdict (some recorded) where
  http := brings.http
  verdict := ⟨_, brings.verdicts_eq⟩
  data := iff_of_true ⟨_, brings.body ▸ List.mem_cons_self⟩ brings.verdicts_eq
  message _ := by
    have short := Nat.lt_succ_of_le brings.short
    obtain ⟨l₁, l₂, l₃, l₄, framed, length⟩ := frameMessage_eq _ short
    have size : Wire.Record.size m ≤ Wire.Varint.maxNumber := by
      rw [← Wire.Overlay.length_encode]
      exact Nat.le_trans brings.short (by decide)
    rw [brings.body]
    refine ⟨⟨_, rfl, rfl⟩, l₁, l₂, l₃, l₄, _, m, recorded, ?_, length,
      Wire.Record.decode_encode (by decide) size, rfl, payload⟩
    show frameMessage (Wire.Record.encode m) ++ [] = _
    rw [List.append_nil, framed]

/-- Every answer to a raw request of data and trailers has one verdict and a body that matches it.
There is no answer exactly where a request that the server takes has headers without room for its
trailers, and then nothing is recorded. Fewer than 6,554 names in both always leave room. -/
theorem every_answer_has_one_verdict (r : Http.Request) (unbroken : Unbroken r.body) :
    (∀ a, r.result = .ok a → a.OneVerdict r.recorded?) ∧
    (∀ crash, r.result = .error crash →
      crash = .headersFull ∧ r.Crowded ∧ r.recorded? = none) ∧
    (∀ received, r.path = servicePath → r.receive = .ok received → r.Crowded →
      r.result = .error .headersFull) ∧
    ((r.headers.names ∪ ((Http.bodyTrailers? r.body).getD {}).names).card < 6554 →
      ¬r.Crowded) := by
  refine ⟨?_, ?_, ?_, Http.Request.not_crowded_of_few⟩
  · intro a answered
    rcases Http.Request.answer_cases unbroken answered with
      refuses | ⟨received, m, -, -, recorded, responded, brings⟩
    · exact refuses.oneVerdict _
    · rw [recorded]
      exact brings.oneVerdict (Received.data_of_respond responded)
  · intro crash crashed
    rcases r.result_cases with
      ⟨-, unknown | ⟨s, refused, failed⟩⟩ |
      ⟨received, -, accepted, ⟨-, answered⟩ | ⟨full, none, same⟩⟩
    · rw [unknown] at crashed
      cases crashed
    · have own := Http.Request.isOwn_of_receive_eq_error unbroken refused
      rw [failed, if_pos (Status.hasRoom_of_isOwn own)] at crashed
      cases crashed
    · rw [answered] at crashed
      cases crashed
    · rw [same] at crashed
      cases crashed
      exact ⟨rfl, (Http.Request.fits_eq_false_iff unbroken accepted).mp full, none⟩
  · intro received path accepted crowded
    have full := (Http.Request.fits_eq_false_iff unbroken accepted).mpr crowded
    have crashes : r.crash? = some .headersFull := by
      rw [Http.Request.crash?, if_pos path, accepted]
      simp only [full]
      rfl
    rw [Http.Request.result, crashes]

/-- A request with trailers that is answered without a payload. -/
def silentRequest : Http.Request :=
  { path := servicePath
    headers := .ofList [("x-trace", utf8 "t")]
    body :=
      [.data (frameMessage ([10, 8, 10, 6] ++ utf8 "silent")), .trailers (.ofList [("x", [])])] }

theorem silent_answer_has_one_verdict :
    Unbroken silentRequest.body ∧ silentRequest.result = .ok silentRequest.answer ∧
      silentRequest.answer.OneVerdict (some { peer := some { peerId := "silent" } }) := by
  have unbroken : Unbroken silentRequest.body := fun cause mem => by
    simp [silentRequest] at mem
  have recorded : silentRequest.recorded? = some { peer := some { peerId := "silent" } } := by
    decide +kernel
  have calm : silentRequest.crash? = none := by decide +kernel
  have answered : silentRequest.result = .ok silentRequest.answer := by
    rw [Http.Request.result, calm]
  obtain ⟨law, -⟩ := every_answer_has_one_verdict silentRequest unbroken
  exact ⟨unbroken, answered, recorded ▸ law _ answered⟩

/-- A request with a message, whose headers and trailers have more names than a header map has room
for. -/
def crowdedRequest : Http.Request :=
  { path := servicePath
    headers := numberedHeaders 0 12300
    body := [.data (frameMessage [10, 3, 10, 1, 112]), .trailers (numberedHeaders 12300 12300)] }

theorem crowdedRequest_receive :
    crowdedRequest.receive =
      .ok
        { message := { peer := some { peerId := "p" } }
          headers := numberedHeaders 0 12300
          trailers := some (numberedHeaders 12300 12300) } := by
  have plain : encodingFault? crowdedRequest.headers = none := by
    have absent : crowdedRequest.headers.get? "grpc-encoding" = none :=
      get?_numberedHeaders 0 12300 (by decide)
    rw [encodingFault?, absent]
  have first : Stream.next .request { body := crowdedRequest.body } =
      .ok (.message ({ peer := some { peerId := "p" } } : Wire.SendRequest)
        { body := [.trailers (numberedHeaders 12300 12300)] }) :=
    Stream.next_frame (by decide) (by decide +kernel) _
  have last : Stream.drain Wire.SendRequest .request
      { body := [.trailers (numberedHeaders 12300 12300)] } =
        .ok (some (numberedHeaders 12300 12300)) :=
    Stream.drain_of_finished (Stream.pull_trailers _ _ _)
  rw [Http.Request.receive, plain]
  simp only [first, last]
  rfl

/-- The server has no answer to it, though its headers fit into a map and so do its trailers. -/
theorem crowded_request_has_no_answer :
    Unbroken crowdedRequest.body ∧ crowdedRequest.headers.names.card = 12300 ∧
    (∃ trailers, Http.bodyTrailers? crowdedRequest.body = some trailers ∧
      trailers.names.card = 12300) ∧
    crowdedRequest.result = .error .headersFull ∧
    ¬∃ a, crowdedRequest.result = .ok a ∧ a.OneVerdict crowdedRequest.recorded? := by
  have unbroken : Unbroken crowdedRequest.body := fun cause mem => by
    simp [crowdedRequest] at mem
  have full : (numberedHeaders 0 12300).fits (numberedHeaders 12300 12300) = false := by
    have all := card_numberedHeaders_union 0 12300 12300
    rw [Nat.zero_add] at all
    refine Headers.not_fits_of_many ?_ ?_
    · rw [card_numberedHeaders]
      decide
    · rw [all]
      decide
  have crashed : crowdedRequest.result = .error .headersFull := by
    have crashes : crowdedRequest.crash? = some .headersFull := by
      rw [Http.Request.crash?, if_pos (show crowdedRequest.path = servicePath from rfl),
        crowdedRequest_receive]
      dsimp only
      rw [Received.fits, Option.all_some, full]
      rfl
    rw [Http.Request.result, crashes]
  refine ⟨unbroken, card_numberedHeaders 0 12300, ⟨_, rfl, card_numberedHeaders 12300 12300⟩,
    crashed, ?_⟩
  rintro ⟨a, answered, -⟩
  rw [crashed] at answered
  cases answered

end Courier
