import Courier.Proofs.Call.SentHeaders
import Courier.Proofs.Server.Answering
import Courier.Server.Session

/-!
# From a caller to the server and back

The request that a call hands over, the recording server that takes it and the reply that the
caller reads are put together: the server records the wire form of the request, and the call
returns the meaning of the request. Of the options, only the trace is left in that meaning, and
only their room decides whether the call is made at all.
-/

namespace Courier

open Http (Headers)

/-! ## A call that reaches the server -/

/-- A call whose headers have room is handed over, recorded, and answered by its meaning. -/
theorem Call.toHttp_means {c : Call} (brief : c.options.IsBrief) (room : c.options.HasRoom)
    (plain : c.options.headers.get? "grpc-encoding" = none)
    (short : Wire.Record.size c.request.toWire ≤ messageLimit)
    (shortTrace : c.request.peerId = "headers" →
      Wire.Record.size (traceResponse (traceText c.options.headers)) ≤ messageLimit) :
    ∃ http, c.toHttp = .ok http ∧ http.recorded? = some c.request.toWire ∧
      http.answer.reply = c.request.meaning (traceText c.options.headers) := by
  obtain ⟨http, handed, kept⟩ := toHttp_of_room brief room
  obtain ⟨path, body⟩ := body_of_toHttp handed
  have framed : (Wire.Record.encode c.request.toWire).length ≤ frameLimit := by
    rw [Wire.Overlay.length_encode]
    exact Nat.le_trans short (by decide)
  rw [requestBody_of_le framed] at body
  have unencoded : http.headers.get? "grpc-encoding" = none := by
    rw [kept _ (by decide) (by decide)]
    exact plain
  have trace : traceText http.headers = traceText c.options.headers := by
    rw [traceText, kept _ (by decide) (by decide), traceText]
  rw [← trace] at shortTrace ⊢
  exact ⟨http, handed, reply_answer path unencoded body short shortTrace⟩

/-! ## Links -/

namespace Link

/-- What comes back over a link for a request. -/
def reply (link : Link) (request : Http.Request) : Reply :=
  match link with
  | .direct => .response request.answer
  | .refused why => .failure why
  | .lost why => .notReady why
  | .network transport _ => transport request

/-- The server behind a link after a request. -/
def after (link : Link) (server : Recorder) (request : Http.Request) : Recorder :=
  match link with
  | .direct => server.receive request
  | .refused _ => server
  | .lost _ => server
  | .network _ delivers => if delivers request then server.receive request else server

/-- A request is received, or the server does not hear of it. -/
theorem after_cases (link : Link) (server : Recorder) (request : Http.Request) :
    link.after server request = server ∨ link.after server request = server.receive request := by
  cases link with
  | direct => exact .inr rfl
  | refused why => exact .inl rfl
  | lost why => exact .inl rfl
  | network transport delivers =>
    by_cases delivered : delivers request = true
    · exact .inr (if_pos delivered)
    · exact .inl (if_neg delivered)

end Link

namespace Recorder

/-- Over any link, a call that is handed over has the outcome of the reply that comes back. -/
theorem call_of_handed (server : Recorder) (link : Link) {c : Call} {http : Http.Request}
    (handed : c.toHttp = .ok http) :
    server.call link c = (link.after server http, (link.reply http).outcome) := by
  have outcome := Call.outcome_of_toHttp handed
  unfold call
  rw [handed]
  cases link with
  | direct => exact congrArg _ (outcome _)
  | refused why => exact congrArg _ (outcome _)
  | lost why => exact congrArg _ (outcome _)
  | network transport delivers => exact congrArg _ (outcome _)

/-- A call that is handed over is recorded at the end of the log, and its outcome is the reply
to it. -/
theorem call_of_toHttp (server : Recorder) {c : Call} {http : Http.Request}
    {message : Wire.SendRequest} (handed : c.toHttp = .ok http)
    (recorded : http.recorded? = some message) :
    server.call .direct c = ({ log := server.log ++ [message] }, http.answer.reply) := by
  have log : server.receive http = { log := server.log ++ [message] } := by
    rw [receive, recorded]
    rfl
  rw [call_of_handed server .direct handed, Link.after, log]
  rfl

/-- A call that is not handed over crashes, unless the link is lost before this is noticed. Either way
the server does not hear of it. -/
theorem call_of_unsent (server : Recorder) (link : Link) {c : Call} {crash : Crash}
    (crashes : c.toHttp = .error crash) :
    server.call link c = (server, .error (.crashed crash)) ∨
      ∃ why status, link = .lost why ∧ server.call link c = (server, .error (.failed status)) := by
  unfold call
  rw [crashes]
  cases link with
  | direct => exact .inl rfl
  | network transport delivers => exact .inl rfl
  | refused why =>
    have ended : c.perform (.failure why) = _ := Call.perform_of_crash crashes nofun
    exact .inl (congrArg (fun e => (server, e.outcome)) ended)
  | lost why =>
    dsimp only
    cases early : c.options.metadata with
    | error crash' =>
      rw [Call.toHttp, early] at crashes
      cases crashes
      refine .inl ?_
      unfold Call.perform
      rw [early]
    | ok metadata =>
      have ended : c.perform (.notReady why) =
          { sent := none, outcome := (Reply.notReady why).outcome } := by
        unfold Call.perform
        rw [early]
      exact .inr ⟨why, _, rfl, congrArg (fun e => (server, e.outcome)) ended⟩

/-- A call that crashes on its way out leaves the server alone. -/
theorem call_of_crash (server : Recorder) {c : Call} {crash : Crash}
    (crashes : c.toHttp = .error crash) :
    server.call .direct c = (server, .error (.crashed crash)) := by
  rcases call_of_unsent server .direct crashes with called | ⟨why, -, lost, -⟩
  · exact called
  · cases lost

end Recorder

namespace Session

/-- A run reports its first step, and then what it reports from the session after it. -/
theorem run_cons {s next : Session} {step : SessionStep} {result : StepResult}
    {received : List Wire.SendRequest} (stepped : s.step step = (next, result))
    (grown : next.server.log = s.server.log ++ received) (rest : List SessionStep) :
    s.run (step :: rest) =
      { result, received, total := next.server.log.length } :: next.run rest := by
  have added : next.server.log.drop s.server.log.length = received := by
    rw [grown, List.drop_left]
  rw [run, stepped]
  simp only [added]

/-- A session of one call reports what the call did to the server, and its outcome. -/
theorem run_call {c : Call} {log : List Wire.SendRequest} {outcome : Outcome String} :
    Recorder.call {} .direct c = ({ log }, outcome) →
      run {} [.call 0 c] =
        [{ result := .outcome outcome, received := log, total := log.length }] := by
  intro called
  have stepped : step {} (.call 0 c) = ({ server := { log } }, .outcome outcome) := by
    rw [step]
    simp only [called]
  exact run_cons stepped rfl []

end Session

/-! ## The trace of a row of steps -/

/-- The last trace that a row of steps sets, as the server shows it. -/
def lastTrace (steps : List OptionStep) : String :=
  match lastValue? "x-trace" steps with
  | none => ""
  | some trace => if Http.isVisible trace then trace else ""

/-- What the server shows of the trace in headers that hold the last value of it. -/
theorem traceText_eq {headers : Headers} {steps : List OptionStep} :
    headers.get? "x-trace" = (lastValue? "x-trace" steps).map utf8 →
      traceText headers = lastTrace steps := by
  intro held
  rw [traceText, held, lastTrace]
  cases lastValue? "x-trace" steps with
  | none => rfl
  | some trace =>
    show (Http.visibleText? (utf8 trace)).getD "" = _
    rw [Http.visibleText?_utf8]
    by_cases visible : Http.isVisible trace = true
    · rw [if_pos visible]
      exact (if_pos visible).symm
    · rw [if_neg visible]
      exact (if_neg visible).symm

/-! ## The whole way -/

/-- With options that are built step by step, a request that is handed over is recorded in its
wire form and answered by its meaning. If the headers have no room, nothing is handed over; fewer than
6,552 names always have it. -/
theorem wire_path_means (r : Request) (steps : List OptionStep) (o : Options)
    (built : ({} : Options).addAll steps = .ok o)
    (plain : ∀ step ∈ steps, step.value? "grpc-encoding" = none) (brief : o.IsBrief)
    (short : Wire.Record.size r.toWire ≤ messageLimit)
    (shortTrace : r.peerId = "headers" →
      Wire.Record.size (traceResponse (lastTrace steps)) ≤ messageLimit) :
    (o.headers.names.card < 6552 → o.HasRoom) ∧
    (o.HasRoom →
      ∃ http : Http.Request,
        (∀ reply : Reply, (∀ cause, reply ≠ .notReady cause) →
          (Call.perform { request := r, options := o } reply).sent = some http) ∧
        (Recorder.receive {} http).log = [r.toWire] ∧
        (Call.perform { request := r, options := o } (.response http.answer)).outcome =
          r.meaning (lastTrace steps) ∧
        Session.run {} [.call 0 { request := r, options := o }] =
          [{ result := .outcome (r.meaning (lastTrace steps))
             received := [r.toWire]
             total := 1 }]) ∧
    (¬o.HasRoom →
      (∀ reply : Reply, (∀ cause, reply ≠ .notReady cause) →
        Call.perform { request := r, options := o } reply =
          { sent := none, outcome := .error (.crashed .headersFull) }) ∧
        Session.run {} [.call 0 { request := r, options := o }] =
          [{ result := .outcome (.error (.crashed .headersFull))
             received := []
             total := 0 }]) := by
  refine ⟨Options.hasRoom_of_few, ?_, ?_⟩
  · intro room
    have unencoded : o.headers.get? "grpc-encoding" = none := by
      rw [Options.get?_of_built built, lastValue?_eq_none plain]
      rfl
    -- No step of the way touches the trace, so the server shows that of the options.
    have trace : traceText o.headers = lastTrace steps :=
      traceText_eq (Options.get?_of_built built _)
    rw [← trace] at shortTrace ⊢
    obtain ⟨http, handed, recorded, meant⟩ :=
      Call.toHttp_means (c := { request := r, options := o }) brief room unencoded short shortTrace
    have called := Recorder.call_of_toHttp {} handed recorded
    rw [meant] at called
    refine ⟨http, ?_, ?_, ?_, Session.run_call called⟩
    · intro reply ready
      rw [Call.perform_of_toHttp handed ready]
    · rw [Recorder.receive, recorded]
      rfl
    · rw [Call.perform_of_toHttp handed (response_ready _)]
      exact meant
  · intro crowded
    have crashes := Call.toHttp_of_crowded (c := { request := r, options := o }) brief crowded
    exact ⟨fun reply => Call.perform_of_crowded brief crowded,
      Session.run_call (Recorder.call_of_crash {} crashes)⟩

/-- A trace that is set twice, with a deadline in between. -/
def tracedSteps : List OptionStep :=
  [.header "X-Trace" "first", .timeout (.ofMillis 1500), .header "x-trace" "the second"]

/-- The options that these steps build. -/
def tracedOptions : Options :=
  { timeout := some (.ofMillis 1500)
    headers := .ofList [("x-trace", utf8 "the second")] }

/-- The request whose answer is the trace. -/
def tracedRequest : Request := { peerId := "headers", data := "größe", topic := .present "" }

theorem traced_call_returns_second_trace :
    ({} : Options).addAll tracedSteps = .ok tracedOptions ∧
    (∀ step ∈ tracedSteps, step.value? "grpc-encoding" = none) ∧ tracedOptions.IsBrief ∧
    Wire.Record.size tracedRequest.toWire ≤ messageLimit ∧
    (tracedRequest.peerId = "headers" →
      Wire.Record.size (traceResponse (lastTrace tracedSteps)) ≤ messageLimit) ∧
    tracedOptions.HasRoom ∧
    Session.run {} [.call 0 { request := tracedRequest, options := tracedOptions }] =
      [{ result := .outcome (.ok "the second")
         received := [tracedRequest.toWire]
         total := 1 }] := by
  have first : ({} : Options).withHeader "X-Trace" "first" =
      .ok { headers := .ofList [("x-trace", utf8 "first")] } := by decide +kernel
  have second : Options.withHeader
      { timeout := some (.ofMillis 1500)
        headers := .ofList [("x-trace", utf8 "first")] } "x-trace" "the second" =
      .ok tracedOptions := by decide +kernel
  have built : ({} : Options).addAll tracedSteps = .ok tracedOptions := by
    simp only [tracedSteps, Options.addAll, Options.add, first, Options.withTimeout, second]
  have plain : ∀ step ∈ tracedSteps, step.value? "grpc-encoding" = none := by decide +kernel
  have brief : tracedOptions.IsBrief := by
    intro d set
    rw [← Option.some.inj set]
    decide +kernel
  have short : Wire.Record.size tracedRequest.toWire ≤ messageLimit := by decide +kernel
  have shortTrace : tracedRequest.peerId = "headers" →
      Wire.Record.size (traceResponse (lastTrace tracedSteps)) ≤ messageLimit := by
    intro _
    decide +kernel
  obtain ⟨rooms, called, -⟩ :=
    wire_path_means tracedRequest tracedSteps tracedOptions built plain brief short shortTrace
  have room : tracedOptions.HasRoom := rooms (by decide +kernel)
  obtain ⟨-, -, -, -, session⟩ := called room
  have shown : tracedRequest.meaning (lastTrace tracedSteps) = .ok "the second" := by
    decide +kernel
  rw [shown] at session
  exact ⟨built, plain, brief, short, shortTrace, room, session⟩

/-- With the crowd for its headers, options are accepted, and yet no call with them is made: it
crashes. -/
theorem crowded_headers_crash_call :
    ∃ o, ({} : Options).addAll crowdSteps = .ok o ∧
      (∀ step ∈ crowdSteps, step.value? "grpc-encoding" = none) ∧ o.IsBrief ∧
      Wire.Record.size (Request.toWire { peerId := "p", data := "d" }) ≤ messageLimit ∧
      (∀ reply : Reply, (∀ cause, reply ≠ .notReady cause) →
        Call.perform { request := { peerId := "p", data := "d" }, options := o } reply =
          { sent := none, outcome := .error (.crashed .headersFull) }) ∧
      Session.run {} [.call 0 { request := { peerId := "p", data := "d" }, options := o }] =
        [{ result := .outcome (.error (.crashed .headersFull))
           received := []
           total := 0 }] := by
  have plain : ∀ step ∈ crowdSteps, step.value? "grpc-encoding" = none :=
    value?_of_mem_crowdSteps (by decide) (by decide)
  have short : Wire.Record.size (Request.toWire { peerId := "p", data := "d" }) ≤ messageLimit := by
    decide +kernel
  have built := addAll_crowdSteps
  have brief := isBrief_attemptAll crowdSteps_fill.1 brief_crowdSteps
  have crowded := not_hasRoom_crowdSteps
  generalize ({} : Options).attemptAll crowdSteps = o at built brief crowded
  have crashes := Call.toHttp_of_crowded
    (c := { request := { peerId := "p", data := "d" }, options := o }) brief crowded
  refine ⟨o, built, plain, brief, short, ?_, Session.run_call (Recorder.call_of_crash {} crashes)⟩
  intro reply ready
  exact Call.perform_of_crash crashes ready

end Courier
