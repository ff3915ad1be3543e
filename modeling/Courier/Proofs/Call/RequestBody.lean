import Courier.Call.Send
import Courier.Proofs.Call.Framing
import Courier.Proofs.Http.Headers
import Courier.Proofs.Wire.RoundTrip

/-!
# The body of a request

What a transport is handed is the framed wire form of the request and nothing else. Because the
wire form is decoded again, two bodies are equal only if peer, data and topic are: an absent
topic, an empty one and every other one have different bytes.
-/

namespace Courier

open Http (Headers)

/-! ## What the transport is handed -/

/-- A message that is not too long is framed. -/
theorem requestBody_of_le {message : Bytes} (short : message.length ≤ frameLimit) :
    requestBody message = [.data (frameMessage message)] := by
  rw [requestBody, framingFault?_eq_none_iff.mpr short]

/-- A transport that responds was ready. -/
theorem response_ready (response : Http.Response) :
    ∀ cause, Reply.response response ≠ .notReady cause := by
  intro cause same
  cases same

namespace Call

/-- Once a transport is ready, a call crashes or is handed over, and the transport has no say in
which. -/
theorem perform_of_ready (c : Call) {reply : Reply} (ready : ∀ cause, reply ≠ .notReady cause) :
    c.perform reply =
      match c.toHttp with
      | .error crash => { sent := none, outcome := .error (.crashed crash) }
      | .ok http => { sent := some http, outcome := reply.outcome } := by
  unfold perform toHttp
  cases c.options.metadata with
  | error crash => rfl
  | ok metadata =>
    cases reply with
    | notReady cause => exact absurd rfl (ready cause)
    | failure cause => cases c.request.toHttp metadata <;> rfl
    | response r => cases c.request.toHttp metadata <;> rfl

/-- A transport that becomes ready is handed the request. -/
theorem perform_of_toHttp {c : Call} {http : Http.Request} (handed : c.toHttp = .ok http)
    {reply : Reply} (ready : ∀ cause, reply ≠ .notReady cause) :
    c.perform reply = { sent := some http, outcome := reply.outcome } := by
  rw [perform_of_ready c ready, handed]

/-- A call that crashes before it is sent hands over nothing, whatever the transport does once
it is ready. -/
theorem perform_of_crash {c : Call} {crash : Crash} (crashes : c.toHttp = .error crash)
    {reply : Reply} (ready : ∀ cause, reply ≠ .notReady cause) :
    c.perform reply = { sent := none, outcome := .error (.crashed crash) } := by
  rw [perform_of_ready c ready, crashes]

/-- A call that can be handed over comes out as its reply does, also if the transport never becomes
ready. -/
theorem outcome_of_toHttp {c : Call} {http : Http.Request} (handed : c.toHttp = .ok http)
    (reply : Reply) : (c.perform reply).outcome = reply.outcome := by
  cases reply with
  | notReady cause =>
    unfold toHttp at handed
    unfold perform
    cases stated : c.options.metadata with
    | error crash =>
      rw [stated] at handed
      cases handed
    | ok metadata => rfl
  | failure cause => rw [perform_of_toHttp handed (by intro _ same; cases same)]
  | response r => rw [perform_of_toHttp handed (response_ready r)]

/-- A call that succeeds was handed over, and its reply is a success. -/
theorem of_outcome_eq_ok {c : Call} {reply : Reply} {s : String}
    (succeeded : (c.perform reply).outcome = .ok s) : reply.outcome = .ok s := by
  cases handed : c.toHttp with
  | ok http => rw [← outcome_of_toHttp handed reply, succeeded]
  | error crash =>
    cases reply with
    | notReady cause =>
      unfold perform at succeeded
      split at succeeded <;> cases succeeded
    | failure cause =>
      rw [perform_of_crash handed (by intro _ same; cases same)] at succeeded
      cases succeeded
    | response r =>
      rw [perform_of_crash handed (response_ready r)] at succeeded
      cases succeeded

/-- A transport that never becomes ready is handed nothing. -/
theorem sent_of_notReady (c : Call) (cause : Failure) :
    (c.perform (.notReady cause)).sent = none := by
  unfold perform
  cases c.options.metadata with
  | error crash => rfl
  | ok metadata => rfl

/-- Only the request of the call is ever handed over. -/
theorem toHttp_of_sent {c : Call} {reply : Reply} {http : Http.Request}
    (sent : (c.perform reply).sent = some http) : c.toHttp = .ok http := by
  have ready : ∀ cause, reply ≠ .notReady cause := by
    rintro cause rfl
    rw [sent_of_notReady] at sent
    cases sent
  cases handed : c.toHttp with
  | error crash =>
    rw [perform_of_crash handed ready] at sent
    cases sent
  | ok http' =>
    rw [perform_of_toHttp handed ready] at sent
    cases sent
    rfl

/-- The request goes to the service, and its body is one message. -/
theorem body_of_toHttp {c : Call} {http : Http.Request} (handed : c.toHttp = .ok http) :
    http.path = servicePath ∧ http.body = requestBody (Wire.Record.encode c.request.toWire) := by
  unfold toHttp Request.toHttp at handed
  split at handed
  · cases handed
  · split at handed
    · cases handed
    · cases handed
      exact ⟨rfl, rfl⟩

/-- A call without options never crashes on its way out. -/
theorem toHttp_of_no_options (r : Request) : ∃ http, Call.toHttp { request := r } = .ok http := by
  have first := Headers.insert?_of_room (h := Headers.sanitized {}) (by decide) "te" (utf8 "trailers")
  have second := Headers.insert?_of_room
    (h := (Headers.sanitized {}).insert "te" (utf8 "trailers")) (by decide) contentTypeHeader
    contentType
  have headers : ∃ headers, callHeaders {} = .ok headers := by
    rw [callHeaders, first]
    exact ⟨_, second⟩
  obtain ⟨headers, added⟩ := headers
  show ∃ http, Request.toHttp r {} = .ok http
  rw [Request.toHttp, added]
  exact ⟨_, rfl⟩

end Call

/-! ## Requests and their wire forms -/

namespace Request

/-- A request after its topic has been replaced any number of times. -/
def withTopics (r : Request) (topics : List Topic) : Request := topics.foldl withTopic r

/-- Only the last topic is left. -/
theorem withTopics_eq (r : Request) (topics : List Topic) :
    r.withTopics topics = { r with topic := topics.getLast?.getD r.topic } := by
  induction topics generalizing r with
  | nil => rfl
  | cons t rest ih =>
    show (r.withTopic t).withTopics rest = _
    rw [ih]
    -- Whether `t` is the last topic depends on whether another one follows.
    cases rest with
    | nil => rfl
    | cons u rest =>
      rw [List.getLast?_cons_cons]
      rfl

/-- A request is determined by its wire form. -/
theorem toWire_inj {r r' : Request} : r.toWire = r'.toWire ↔ r = r' := by
  constructor
  · intro same
    obtain ⟨p, d, t⟩ := r
    obtain ⟨p', d', t'⟩ := r'
    simp only [toWire, Topic.toWire, Wire.SendRequest.mk.injEq, Option.some.injEq,
      Wire.Peer.mk.injEq, Wire.Message.mk.injEq, Wire.Payload.mk.injEq,
      Wire.OptionalTopic.mk.injEq] at same
    obtain ⟨rfl, rfl, topics⟩ := same
    -- The wire form keeps a topic as an option, which is where topics are compared.
    rw [← Topic.ofOption_toOption t, ← Topic.ofOption_toOption t']
    cases topic : t.toOption <;> cases topic' : t'.toOption <;>
      simp_all only [Option.map_none, Option.map_some, reduceCtorEq, Option.some.injEq,
        Wire.Topic.mk.injEq]
  · rintro rfl
    rfl

/-- The wire form of a request is decoded again. -/
theorem decode_encode_toWire {r : Request} (small : Wire.Record.size r.toWire < 0x100000000) :
    Wire.Record.decode (Wire.Record.encode r.toWire) = .ok r.toWire :=
  Wire.Record.decode_encode (by decide) (Nat.le_of_lt (Nat.lt_trans small (by decide)))

theorem length_encode_toWire_lt {r : Request} (small : Wire.Record.size r.toWire < 0x100000000) :
    (Wire.Record.encode r.toWire).length < 0x100000000 := by
  rw [Wire.Overlay.length_encode]
  exact small

theorem requestBody_of_small {r : Request} (small : Wire.Record.size r.toWire < 0x100000000) :
    requestBody (Wire.Record.encode r.toWire) =
      [.data (frameMessage (Wire.Record.encode r.toWire))] :=
  requestBody_of_le (Nat.le_of_lt_succ (length_encode_toWire_lt small))

/-- Bodies are equal only if the requests are. -/
theorem frame_inj {r r' : Request} (small : Wire.Record.size r.toWire < 0x100000000)
    (small' : Wire.Record.size r'.toWire < 0x100000000) :
    frameMessage (Wire.Record.encode r.toWire) = frameMessage (Wire.Record.encode r'.toWire) ↔
      r = r' := by
  rw [frameMessage_inj]
  constructor
  · intro same
    have read := decode_encode_toWire small
    rw [same, decode_encode_toWire small'] at read
    exact (toWire_inj.mp (Except.ok.inj read)).symm
  · rintro rfl
    rfl

/-- The request that a caller builds: peer and data, and then one topic after another. -/
def build (peerId data : String) (topics : List Topic) : Request :=
  withTopics { peerId, data } topics

/-- The topic that is left of a row of replacements. -/
def lastTopic (topics : List Topic) : Topic := topics.getLast?.getD .absent

theorem build_eq (peerId data : String) (topics : List Topic) :
    build peerId data topics = { peerId, data, topic := lastTopic topics } :=
  withTopics_eq _ topics

theorem build_inj {p p' d d' : String} {ts ts' : List Topic} :
    build p d ts = build p' d' ts' ↔ p = p' ∧ d = d' ∧ lastTopic ts = lastTopic ts' := by
  rw [build_eq, build_eq, Request.mk.injEq]

end Request

open Request (build lastTopic)

/-- The body of a request is one frame around a message that gives back peer, data and topic, and
two bodies are equal exactly if these three are. -/
theorem request_body_is_lossless (p d p' d' : String) (ts ts' : List Topic)
    (small : Wire.Record.size (build p d ts).toWire < 0x100000000)
    (small' : Wire.Record.size (build p' d' ts').toWire < 0x100000000) :
    (∀ reply : Reply, (∀ cause, reply ≠ .notReady cause) →
      ∃ http, (Call.perform { request := build p d ts } reply).sent = some http) ∧
    (∀ options reply http,
      (Call.perform { request := build p d ts, options } reply).sent = some http →
      ∃ l₁ l₂ l₃ l₄ message,
        http.body = [.data (0 :: l₁ :: l₂ :: l₃ :: l₄ :: message)] ∧
        bigEndian l₁ l₂ l₃ l₄ = message.length ∧
        Wire.Record.decode message =
          .ok
            ({ peer := some { peerId := p }
               msg := some
                 { data := some { data := d }
                   topic := some
                     { topic :=
                         match lastTopic ts with
                         | .absent => none
                         | .present topic => some { topic } } } } : Wire.SendRequest)) ∧
    (∀ options options' reply reply' http http',
      (Call.perform { request := build p d ts, options } reply).sent = some http →
      (Call.perform { request := build p' d' ts', options := options' } reply').sent =
        some http' →
      (http.body = http'.body ↔ p = p' ∧ d = d' ∧ lastTopic ts = lastTopic ts')) := by
  refine ⟨?_, ?_, ?_⟩
  · intro reply ready
    obtain ⟨http, handed⟩ := Call.toHttp_of_no_options (build p d ts)
    exact ⟨http, by rw [Call.perform_of_toHttp handed ready]⟩
  · intro options reply http sent
    obtain ⟨-, body⟩ := Call.body_of_toHttp (Call.toHttp_of_sent sent)
    obtain ⟨l₁, l₂, l₃, l₄, framed, length⟩ :=
      frameMessage_eq _ (Request.length_encode_toWire_lt small)
    refine ⟨l₁, l₂, l₃, l₄, _, by rw [body, Request.requestBody_of_small small, framed], length, ?_⟩
    rw [Request.decode_encode_toWire small, Request.build_eq]
    cases lastTopic ts <;> rfl
  · intro options options' reply reply' http http' sent sent'
    obtain ⟨-, body⟩ := Call.body_of_toHttp (Call.toHttp_of_sent sent)
    obtain ⟨-, body'⟩ := Call.body_of_toHttp (Call.toHttp_of_sent sent')
    rw [body, body', Request.requestBody_of_small small, Request.requestBody_of_small small',
      ← Request.build_inj, ← Request.frame_inj small small', List.cons.injEq, BodyFrame.data.injEq]
    exact and_iff_left rfl

/-- A topic that was taken back and one that was made empty have different bytes. -/
theorem absent_topic_is_not_empty :
    Wire.Record.size (build "peer" "größe" [.present "t", .absent]).toWire < 0x100000000 ∧
    Wire.Record.size (build "peer" "größe" [.present "t", .present ""]).toWire < 0x100000000 ∧
    ∀ options options' reply reply' http http',
      (Call.perform { request := build "peer" "größe" [.present "t", .absent], options }
        reply).sent = some http →
      (Call.perform
        { request := build "peer" "größe" [.present "t", .present ""], options := options' }
        reply').sent = some http' →
      http.body ≠ http'.body := by
  have small :
      Wire.Record.size (build "peer" "größe" [.present "t", .absent]).toWire < 0x100000000 := by
    decide +kernel
  have small' :
      Wire.Record.size (build "peer" "größe" [.present "t", .present ""]).toWire <
        0x100000000 := by
    decide +kernel
  obtain ⟨-, -, differ⟩ := request_body_is_lossless "peer" "größe" "peer" "größe"
    [.present "t", .absent] [.present "t", .present ""] small small'
  refine ⟨small, small', ?_⟩
  intro options options' reply reply' http http' sent sent' same
  obtain ⟨-, -, topics⟩ := (differ options options' reply reply' http http' sent sent').mp same
  cases topics

end Courier
