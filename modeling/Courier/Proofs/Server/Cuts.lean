import Courier.Proofs.Call.Gathering
import Courier.Proofs.Server.Answering
import Mathlib.Data.List.Forall2

/-!
# Bodies that are cut in other ways

Neither side of a call can tell how a body was cut into frames of data. A response and a raw
request are each read in two strokes, the next message and then the rest to its end, and both give
the same for bodies that gather to the same stream. Hence a call has the same outcome
(`reply_of_recut`), and a server that takes a row of requests answers and records the same
(`serve_of_recuts`), also when bodies are broken off, hold faults or fail.
-/

namespace Courier

open Http (Headers)

namespace Http.Response

variable {r : Response} {body : List BodyFrame}

theorem bodyMessage_of_recut (cut : Recut r.body body) (reading : Reading) :
    bodyMessage { r with body } reading = r.bodyMessage reading := by
  unfold bodyMessage firstMessage
  rcases Stream.next_of_gather_eq Wire.Response reading cut.gather_eq with
    ⟨fault, first, second⟩ | ⟨trailers, first, second⟩ | ⟨m, rest, rest', first, second, alike⟩
  · rw [first, second]
  · rw [first, second]
  · rw [first, second]
    simp only [Outcome.mergeFailure, Stream.drain_of_gather_eq Wire.Response reading alike]

/-- A response gives the same reply however its body is cut. -/
theorem reply_of_recut (cut : Recut r.body body) : reply { r with body } = r.reply := by
  have same : message { r with body } = r.message := by
    unfold message
    have undecided : reading { r with body } = r.reading := rfl
    rw [undecided]
    cases r.reading with
    | error e => rfl
    | ok reading => exact bodyMessage_of_recut cut reading
  rw [reply, same, reply]

end Http.Response

/-! ## Requests -/

/-- A request that differs from another one at most in how its body is cut. -/
def Http.Request.Recuts (r r' : Http.Request) : Prop :=
  ∃ body, Recut r.body body ∧ r' = { r with body }

namespace Http.Request

variable {r r' : Request}

/-- A server takes the same out of a request however its body is cut. -/
theorem receive_of_recuts (cut : r.Recuts r') : r'.receive = r.receive := by
  obtain ⟨body, cut, rfl⟩ := cut
  unfold receive
  rcases Stream.next_of_gather_eq Wire.SendRequest .request cut.gather_eq with
    ⟨fault, first, second⟩ | ⟨trailers, first, second⟩ | ⟨m, rest, rest', first, second, alike⟩
  · rw [first, second]
  · rw [first, second]
  · rw [first, second]
    simp only [Stream.drain_of_gather_eq Wire.SendRequest .request alike]

theorem path_of_recuts (cut : r.Recuts r') : r'.path = r.path := by
  obtain ⟨body, -, rfl⟩ := cut
  rfl

theorem result_of_recuts (cut : r.Recuts r') : r'.result = r.result := by
  unfold result crash? answer
  rw [path_of_recuts cut, receive_of_recuts cut]

theorem recorded?_of_recuts (cut : r.Recuts r') : r'.recorded? = r.recorded? := by
  unfold recorded?
  rw [path_of_recuts cut, receive_of_recuts cut]

end Http.Request

/-- A server takes a row of requests in the same way however their bodies are cut. What one request
leaves behind is where the next one starts. -/
theorem Recorder.serve_of_recuts {requests requests' : List Http.Request}
    (cuts : List.Forall₂ Http.Request.Recuts requests requests') (server : Recorder) :
    server.serve requests' = server.serve requests := by
  induction cuts generalizing server with
  | nil => rfl
  | cons cut _ ih =>
    have after : server.receive _ = server.receive _ :=
      congrArg (fun m : Option Wire.SendRequest => (⟨server.log ++ m.toList⟩ : Recorder))
        (Http.Request.recorded?_of_recuts cut)
    rw [serve, serve, after, Http.Request.result_of_recuts cut, ih]

/-! ## Both sides -/

/-- However bodies are cut into frames, a call goes out and comes back the same, and a server
answers the same and records the same. -/
theorem cuts_do_not_matter :
    (∀ (c : Call) (r : Http.Response) (body : List BodyFrame), Recut r.body body →
      c.perform (.response { r with body }) = c.perform (.response r)) ∧
    (∀ (server : Recorder) (requests requests' : List Http.Request),
      List.Forall₂ Http.Request.Recuts requests requests' →
        server.serve requests' = server.serve requests) := by
  refine ⟨?_, ?_⟩
  · intro c r body cut
    rw [Call.perform_of_ready c (response_ready _), Call.perform_of_ready c (response_ready _)]
    simp only [Reply.outcome, Http.Response.reply_of_recut cut]
  · intro server requests requests' cuts
    exact server.serve_of_recuts cuts

/-- A short answer. -/
def greeting : Wire.Response := { data := some { data := "hi" } }

/-- The body of that answer, cut within the five bytes in front of the message, with a frame
without bytes in between. -/
def cutGreeting : List BodyFrame :=
  [.data [0, 0, 0], .data [], .data ([0, 6] ++ Wire.Record.encode greeting),
    .trailers okTrailers]

/-- A request that breaks off before its message is whole. -/
def brokenRequest : Http.Request :=
  { path := servicePath, body := [.data [0, 0, 0, 0, 9, 10]] }

theorem cut_greeting_is_read :
    Recut (messageResponse greeting).body cutGreeting ∧
    (Call.perform { request := { peerId := "p", data := "d" } }
      (.response { messageResponse greeting with body := cutGreeting })).outcome = .ok "hi" ∧
    List.Forall₂ Http.Request.Recuts [brokenRequest]
      [{ brokenRequest with body := [.data [0, 0], .data [0, 0, 9, 10]] }] ∧
    Recorder.serve {} [{ brokenRequest with body := [.data [0, 0], .data [0, 0, 9, 10]] }] =
      Recorder.serve {} [brokenRequest] := by
  have whole : frameMessage (Wire.Record.encode greeting) =
      [0, 0, 0] ++ ([0, 6] ++ Wire.Record.encode greeting) := by decide +kernel
  have cut : Recut (messageResponse greeting).body cutGreeting := by
    show Recut (responseBody (Wire.Record.encode greeting)) _
    rw [responseBody_of_le (by decide +kernel), whole]
    exact .trans (.split _ _ _) (.behind _ (.blank _))
  have cuts : List.Forall₂ Http.Request.Recuts [brokenRequest]
      [{ brokenRequest with body := [.data [0, 0], .data [0, 0, 9, 10]] }] :=
    .cons ⟨_, .split [0, 0] [0, 0, 9, 10] [], rfl⟩ .nil
  obtain ⟨client, server⟩ := cuts_do_not_matter
  refine ⟨cut, ?_, cuts, server {} _ _ cuts⟩
  obtain ⟨http, handed⟩ := Call.toHttp_of_no_options { peerId := "p", data := "d" }
  have uncut := client { request := { peerId := "p", data := "d" } } (messageResponse greeting)
    cutGreeting cut
  have short : Wire.Record.size greeting ≤ messageLimit := by decide +kernel
  rw [uncut, Call.outcome_of_toHttp handed, Reply.outcome, reply_messageResponse short]
  rfl

end Courier
