import Courier.Proofs.Call.Attempts
import Courier.Proofs.Call.Sending

/-!
# Exactly the headers that are sent

Whatever steps the options of a call were built from, in whatever order and with whatever refusals
among them, `sentValue?` says what stands under each name in the request: the protocol's value
under a name of its own, the last deadline under the name of deadlines, and under every other name
the value that was accepted last. It follows that a header is accepted under a name of the
protocol and does not travel. All of this is so as long as no insertion finds the header map full,
which fewer than 6,552 names never do; a crowd of 6,564 names shows that the number cannot be much
larger.
-/

namespace Courier

open Http (Headers)

/-! ## What the steps say about a name -/

/-- The value under which a name is sent after a row of steps, if it is sent. -/
def sentValue? (steps : List OptionStep) (name : String) : Option Bytes :=
  if name ∈ reservedHeaders then protocolValue? name
  else
    match lastDuration? steps with
    | some d =>
      if name = Options.timeoutHeader then d.deadline?.map utf8 else lastAccepted? name steps
    | none => lastAccepted? name steps

section Steps

variable {steps : List OptionStep}

/-- A name has its last accepted value in the options and no other. -/
theorem values_insertAll_empty (steps : List OptionStep) (name : String) :
    (Headers.insertAll {} (acceptedHeaders steps)).values name =
      (lastAccepted? name steps).toList := by
  rw [Headers.values_insertAll, lastAccepted?]
  cases (Headers.valuesIn name (acceptedHeaders steps)).getLast? <;> rfl

theorem names_insertAll_empty (steps : List OptionStep) :
    (Headers.insertAll {} (acceptedHeaders steps)).names = acceptedKeys steps := by
  rw [Headers.names_insertAll, acceptedKeys]
  exact Finset.empty_union _

/-- With fewer than 6,552 keys, no insertion finds the map full, be it that of a header that is
accepted or one that the call makes. -/
theorem rooms_of_few (few : (acceptedKeys steps).card < 6552) :
    HaveRoom steps ∧ (({} : Options).attemptAll steps).HasRoom := by
  have room : HaveRoom steps := haveRoom_of_few (Nat.lt_of_lt_of_le few (by decide))
  refine ⟨room, Options.hasRoom_of_few ?_⟩
  rw [Options.attemptAll_of_haveRoom room]
  show (Headers.insertAll {} (acceptedHeaders steps)).names.card < 6552
  rw [names_insertAll_empty]
  exact few

theorem isBrief_attemptAll (room : HaveRoom steps)
    (brief : ∀ d, lastDuration? steps = some d → d.nanos / TimeUnit.hour.nanos < 100000000) :
    (({} : Options).attemptAll steps).IsBrief := by
  rw [Options.attemptAll_of_haveRoom room]
  exact brief

/-- The headers of a call are those that the steps say. -/
theorem values_of_steps (r : Request) (room : HaveRoom steps)
    (room' : (({} : Options).attemptAll steps).HasRoom)
    (brief : ∀ d, lastDuration? steps = some d → d.nanos / TimeUnit.hour.nanos < 100000000) :
    ∃ http, Call.toHttp { request := r, options := ({} : Options).attemptAll steps } = .ok http ∧
      ∀ name, http.headers.values name = (sentValue? steps name).toList := by
  obtain ⟨http, handed, sent⟩ := Call.values_of_room
    (c := { request := r, options := ({} : Options).attemptAll steps })
    (isBrief_attemptAll room brief) room'
  refine ⟨http, handed, ?_⟩
  intro name
  rw [sent, sentValue?]
  show (({} : Options).attemptAll steps).sentValues name = _
  rw [Options.attemptAll_of_haveRoom room, Options.sentValues, Options.metadataValues,
    values_insertAll_empty]
  by_cases reserved : name ∈ reservedHeaders
  · rw [if_pos reserved, if_pos reserved]
  · rw [if_neg reserved, if_neg reserved]
    cases lastDuration? steps with
    | none => rfl
    | some d =>
      dsimp only
      split <;> rfl

/-- Without room for the headers that the call itself inserts, it crashes. -/
theorem perform_of_crowded_steps (r : Request) (room : HaveRoom steps)
    (crowded : ¬(({} : Options).attemptAll steps).HasRoom)
    (brief : ∀ d, lastDuration? steps = some d → d.nanos / TimeUnit.hour.nanos < 100000000)
    {reply : Reply} (ready : ∀ cause, reply ≠ .notReady cause) :
    Call.perform { request := r, options := ({} : Options).attemptAll steps } reply =
      { sent := none, outcome := .error (.crashed .headersFull) } :=
  Call.perform_of_crowded (c := { request := r, options := ({} : Options).attemptAll steps })
    (isBrief_attemptAll room brief) crowded ready

end Steps

/-! ## All headers of a call -/

/-- Options that are built step by step, refused steps among them, are sent as exactly the headers
that the steps say, each name once. Steps that get the same headers accepted in the same order and
set the same last deadline send the same headers, wherever the deadlines stand between them. What can
be in the way is a header map that is full, when a step inserts a header or when the call does: the
one has no room for the header, the other crashes. Neither happens with fewer than 6,552 keys. -/
theorem sent_headers_are_exact (r : Request) (steps : List OptionStep)
    (brief : ∀ d, lastDuration? steps = some d → d.nanos / TimeUnit.hour.nanos < 100000000)
    (reply : Reply) (ready : ∀ cause, reply ≠ .notReady cause) :
    ((acceptedKeys steps).card < 6552 →
      HaveRoom steps ∧ (({} : Options).attemptAll steps).HasRoom) ∧
    (HaveRoom steps → (({} : Options).attemptAll steps).HasRoom →
      ∃ http,
        (Call.perform { request := r, options := ({} : Options).attemptAll steps } reply).sent =
          some http ∧
        (∀ name, http.headers.values name = (sentValue? steps name).toList) ∧
        ∀ d, lastDuration? steps = some d →
          ∃ text, d.deadline? = some text ∧
            http.headers.values Options.timeoutHeader = [utf8 text]) ∧
    (HaveRoom steps → ¬(({} : Options).attemptAll steps).HasRoom →
      Call.perform { request := r, options := ({} : Options).attemptAll steps } reply =
        { sent := none, outcome := .error (.crashed .headersFull) }) ∧
    (¬HaveRoom steps →
      ∃ front key value, front ++ [.header key value] <+: steps ∧ HaveRoom front ∧
        (∃ entry, Options.header key value = .ok entry) ∧
        (({} : Options).attemptAll front).withHeader key value = .error .noRoom) ∧
    (∀ steps', acceptedHeaders steps' = acceptedHeaders steps →
      lastDuration? steps' = lastDuration? steps → HaveRoom steps →
      ∀ (r' : Request) (reply' : Reply), (∀ cause, reply' ≠ .notReady cause) →
        (Call.perform { request := r', options := ({} : Options).attemptAll steps' }
            reply').sent.map (·.headers) =
          (Call.perform { request := r, options := ({} : Options).attemptAll steps }
            reply).sent.map (·.headers)) ∧
    Options.timeoutHeader ∉ reservedHeaders ∧
    ∀ name ∈ reservedHeaders,
      name = "te" ∨ name = contentTypeHeader ∨ "grpc-".toList.isPrefixOf name.toList = true := by
  have free : Options.timeoutHeader ∉ reservedHeaders := by decide
  refine ⟨rooms_of_few, ?_, ?_, full_of_not_haveRoom, ?_, free, by decide⟩
  · intro room room'
    obtain ⟨http, handed, sent⟩ := values_of_steps r room room' brief
    refine ⟨http, by rw [Call.perform_of_toHttp handed ready], sent, ?_⟩
    intro d set
    have short : ({ timeout := some d } : Options).IsBrief := by
      intro d' same
      cases same
      exact brief d set
    obtain ⟨text, written⟩ := short.deadline? rfl
    refine ⟨text, written, ?_⟩
    rw [sent, sentValue?, if_neg free, set]
    simp only [if_true, written]
    rfl
  · exact fun room crowded => perform_of_crowded_steps r room crowded brief ready
  · intro steps' headers duration room r' reply' ready'
    have room' : HaveRoom steps' := by
      rw [HaveRoom, headers]
      exact room
    have same : ({} : Options).attemptAll steps' = ({} : Options).attemptAll steps := by
      rw [Options.attemptAll_of_haveRoom room', Options.attemptAll_of_haveRoom room, headers,
        duration]
    exact Call.headers_of_same_options same ready ready'

/-- Steps among which a key and a header of deadlines come twice, one is refused, and the deadline
changes. -/
def crossedSteps : List OptionStep :=
  [.timeout (.ofMillis 5), .header "Grpc-Timeout" "1H", .header "X-Trace" "first",
    .header "bad key" "v", .header "te" "gzip", .timeout (.ofMillis 1500),
    .header "x-trace" "second"]

/-- The same headers, with the last deadline in front of them. -/
def parallelSteps : List OptionStep :=
  [.timeout (.ofMillis 1500), .header "grpc-timeout" "1H", .header "x-trace" "first",
    .header "te" "gzip", .header "x-trace" "second"]

/-- What both rows of steps get accepted. -/
def crossedHeaders : List (String × Bytes) :=
  [("grpc-timeout", utf8 "1H"), ("x-trace", utf8 "first"), ("te", utf8 "gzip"),
    ("x-trace", utf8 "second")]

theorem crossed_steps_send_last_values :
    (acceptedKeys crossedSteps).card < 6552 ∧
    (∀ d, lastDuration? crossedSteps = some d → d.nanos / TimeUnit.hour.nanos < 100000000) ∧
    (∃ http,
      (Call.perform
        { request := { peerId := "p", data := "d" }
          options := ({} : Options).attemptAll crossedSteps } (.response {})).sent = some http ∧
      http.headers.values "te" = [utf8 "trailers"] ∧
      http.headers.values "x-trace" = [utf8 "second"] ∧
      http.headers.values "grpc-timeout" = [utf8 "1500000u"]) ∧
    (Call.perform
          { request := { peerId := "q", data := "" }
            options := ({} : Options).attemptAll parallelSteps }
          (.response {})).sent.map (·.headers) =
      (Call.perform
          { request := { peerId := "p", data := "d" }
            options := ({} : Options).attemptAll crossedSteps }
          (.response {})).sent.map (·.headers) := by
  have accepted : acceptedHeaders crossedSteps = crossedHeaders := by decide +kernel
  have sorted : acceptedHeaders parallelSteps = crossedHeaders := by decide +kernel
  have last : lastDuration? crossedSteps = some (.ofMillis 1500) := by decide +kernel
  have few : (acceptedKeys crossedSteps).card < 6552 := by
    rw [acceptedKeys, accepted]
    decide +kernel
  have brief : ∀ d, lastDuration? crossedSteps = some d →
      d.nanos / TimeUnit.hour.nanos < 100000000 := by
    intro d set
    rw [last] at set
    cases set
    decide +kernel
  obtain ⟨rooms, sends, -, -, alike, -⟩ := sent_headers_are_exact
    { peerId := "p", data := "d" } crossedSteps brief (.response {}) (response_ready {})
  obtain ⟨room, room'⟩ := rooms few
  obtain ⟨http, sent, exactly, -⟩ := sends room room'
  refine ⟨few, brief, ⟨http, sent, ?_, ?_, ?_⟩, ?_⟩
  · rw [exactly, sentValue?, if_pos (by decide)]
    decide
  · rw [exactly, sentValue?, lastAccepted?, accepted, last]
    decide +kernel
  · rw [exactly, sentValue?, lastAccepted?, accepted, last]
    decide +kernel
  · exact alike parallelSteps (sorted.trans accepted.symm) last.symm room _ _ (response_ready {})

/-- No name of the crowd is the protocol's. -/
theorem not_mem_crowd_of_reserved {name : String} (reserved : name ∈ reservedHeaders) :
    name ∉ Http.crowd := by
  have lengths : reservedHeaders.all
      (fun s => s.toList.length != 4 && s.toList.length != 36) = true := by decide +kernel
  intro inside
  have other := List.all_eq_true.mp lengths name reserved
  rcases Http.length_of_mem_crowd inside with length | length
  · rw [length] at other
    cases other
  · rw [length] at other
    cases other

/-- The crowd leaves no room for what the call itself inserts. -/
theorem not_hasRoom_crowdSteps : ¬(({} : Options).attemptAll crowdSteps).HasRoom := by
  obtain ⟨found, built, full⟩ := crowdSteps_fill
  have unhurried : (({} : Options).attemptAll crowdSteps).timeout = none :=
    (congrArg Options.timeout (Options.attemptAll_of_haveRoom found)).trans lastDuration?_crowdSteps
  refine Options.not_hasRoom_of_full unhurried ?_ full
  intro name reserved held
  rw [built, names_insertAll_empty, acceptedKeys_crowdSteps, List.mem_toFinset] at held
  exact not_mem_crowd_of_reserved reserved held

/-- There is no deadline in it. -/
theorem brief_crowdSteps (d : Duration) (set : lastDuration? crowdSteps = some d) :
    d.nanos / TimeUnit.hour.nanos < 100000000 := by
  rw [lastDuration?_crowdSteps] at set
  cases set

/-- With the crowd for its headers, which are all accepted and far fewer than a header map has places,
a call crashes. -/
theorem crowded_steps_crash_call :
    (acceptedKeys crowdSteps).card < 24000 ∧ lastDuration? crowdSteps = none ∧
    ({} : Options).addAll crowdSteps = .ok (({} : Options).attemptAll crowdSteps) ∧
    ∀ (r : Request) (reply : Reply), (∀ cause, reply ≠ .notReady cause) →
      Call.perform { request := r, options := ({} : Options).attemptAll crowdSteps } reply =
        { sent := none, outcome := .error (.crashed .headersFull) } := by
  have few : (acceptedKeys crowdSteps).card < 24000 := by
    rw [acceptedKeys_crowdSteps, card_crowd]
    decide
  refine ⟨few, lastDuration?_crowdSteps, addAll_crowdSteps, ?_⟩
  intro r reply ready
  exact perform_of_crowded_steps r crowdSteps_fill.1 not_hasRoom_crowdSteps brief_crowdSteps ready

/-! ## Headers that are accepted and do not travel -/

/-- A row of headers and nothing else. -/
def headerSteps (headers : List (String × String)) : List OptionStep :=
  headers.map fun h => .header h.1 h.2

/-- Headers set no deadline. -/
theorem lastDuration?_headerSteps (headers : List (String × String)) :
    lastDuration? (headerSteps headers) = none := by
  refine lastDuration?_eq_none fun step mem => ?_
  obtain ⟨h, -, rfl⟩ := List.mem_map.mp mem
  rfl

theorem mem_acceptedHeaders_headerSteps {headers : List (String × String)} {key value : String}
    {entry : String × Bytes} (mem : (key, value) ∈ headers)
    (accepted : Options.header key value = .ok entry) :
    entry ∈ acceptedHeaders (headerSteps headers) := by
  refine List.mem_filterMap.mpr ⟨.header key value, List.mem_map.mpr ⟨_, mem, rfl⟩, ?_⟩
  rw [OptionStep.entry?, accepted]
  rfl

/-- A header that is accepted is sent under its key in lower case with the value accepted last,
unless the name is the protocol's own: such a name is accepted as well, and what is sent under it
is the protocol's value or nothing. Here too, a header map that is full is in the way of the headers
or of the call, but not with fewer than 6,552 keys. -/
theorem accepted_header_travels_unless_reserved (r : Request) (headers : List (String × String))
    (reply : Reply) (ready : ∀ cause, reply ≠ .notReady cause) :
    ((acceptedKeys (headerSteps headers)).card < 6552 →
      HaveRoom (headerSteps headers) ∧ (({} : Options).attemptAll (headerSteps headers)).HasRoom) ∧
    (HaveRoom (headerSteps headers) → (({} : Options).attemptAll (headerSteps headers)).HasRoom →
      ∃ http,
        (Call.perform { request := r, options := ({} : Options).attemptAll (headerSteps headers) }
          reply).sent = some http ∧
        ∀ key value, (key, value) ∈ headers → (∃ entry, Options.header key value = .ok entry) →
          ∃ v, lastAccepted? (key.map Char.toLower) (headerSteps headers) = some v ∧
            (key.map Char.toLower ∉ reservedHeaders →
              http.headers.values (key.map Char.toLower) = [v]) ∧
            (key.map Char.toLower ∈ reservedHeaders →
              http.headers.values (key.map Char.toLower) =
                (protocolValue? (key.map Char.toLower)).toList)) ∧
    (HaveRoom (headerSteps headers) → ¬(({} : Options).attemptAll (headerSteps headers)).HasRoom →
      Call.perform { request := r, options := ({} : Options).attemptAll (headerSteps headers) }
          reply =
        { sent := none, outcome := .error (.crashed .headersFull) }) ∧
    ∀ key ∈ reservedHeaders, ∀ value, Http.isHeaderValue value = true →
      ∀ o : Options, o.headers.isFull = false → ∃ o', o.withHeader key value = .ok o' := by
  have none := lastDuration?_headerSteps headers
  have brief : ∀ d, lastDuration? (headerSteps headers) = some d →
      d.nanos / TimeUnit.hour.nanos < 100000000 := by
    intro d set
    rw [none] at set
    cases set
  refine ⟨rooms_of_few, ?_, ?_, ?_⟩
  · intro room room'
    obtain ⟨http, handed, sent⟩ := values_of_steps r room room' brief
    refine ⟨http, by rw [Call.perform_of_toHttp handed ready], ?_⟩
    rintro key value mem ⟨⟨name, bytes⟩, accepted⟩
    have there := mem_acceptedHeaders_headerSteps mem accepted
    rw [Options.of_header_eq_ok accepted] at there
    obtain ⟨v, last⟩ := lastAccepted?_of_mem there
    refine ⟨v, last, ?_, ?_⟩
    · intro own
      rw [sent, sentValue?, if_neg own, none]
      simp only [last, Option.toList_some]
    · intro reserved
      rw [sent, sentValue?, if_pos reserved]
  · exact fun room crowded => perform_of_crowded_steps r room crowded brief ready
  · intro key reserved value allowed o room
    have named : ∀ key ∈ reservedHeaders, metadataName? key = some key := by decide +kernel
    exact ⟨_, Options.withHeader_eq_ok_iff.mpr ⟨key, named key reserved, allowed, room, rfl⟩⟩

/-- Headers under a name of the protocol and under another one. -/
def guardedHeaders : List (String × String) :=
  [("TE", "gzip"), ("X-Trace", "first"), ("x-trace", "second"), ("Grpc-Message", "m")]

theorem guarded_headers_travel_in_part :
    (acceptedKeys (headerSteps guardedHeaders)).card < 6552 ∧
    ∃ http,
      (Call.perform
        { request := { peerId := "p", data := "d" }
          options := ({} : Options).attemptAll (headerSteps guardedHeaders) }
        (.response {})).sent = some http ∧
      http.headers.values "te" = [utf8 "trailers"] ∧
      http.headers.values "x-trace" = [utf8 "second"] ∧
      http.headers.values "grpc-message" = [] := by
  have accepted : acceptedHeaders (headerSteps guardedHeaders) =
      [("te", utf8 "gzip"), ("x-trace", utf8 "first"), ("x-trace", utf8 "second"),
        ("grpc-message", utf8 "m")] := by decide +kernel
  have few : (acceptedKeys (headerSteps guardedHeaders)).card < 6552 := by
    rw [acceptedKeys, accepted]
    decide +kernel
  obtain ⟨rooms, sends, -⟩ := accepted_header_travels_unless_reserved
    { peerId := "p", data := "d" } guardedHeaders (.response {}) (response_ready {})
  obtain ⟨http, sent, travels⟩ := sends (rooms few).1 (rooms few).2
  have te : "TE".map Char.toLower = "te" := by decide +kernel
  have trace : "X-Trace".map Char.toLower = "x-trace" := by decide +kernel
  have message : "Grpc-Message".map Char.toLower = "grpc-message" := by decide +kernel
  have last : lastAccepted? "x-trace" (headerSteps guardedHeaders) = some (utf8 "second") := by
    rw [lastAccepted?, accepted]
    decide +kernel
  refine ⟨few, http, sent, ?_, ?_, ?_⟩
  · obtain ⟨-, -, -, protocol⟩ := travels "TE" "gzip" (by decide +kernel)
      ⟨("te", utf8 "gzip"), by decide +kernel⟩
    rw [te] at protocol
    exact protocol (by decide)
  · obtain ⟨v, held, own, -⟩ := travels "X-Trace" "first" (by decide +kernel)
      ⟨("x-trace", utf8 "first"), by decide +kernel⟩
    rw [trace] at held own
    rw [last] at held
    cases held
    exact own (by decide)
  · obtain ⟨-, -, -, protocol⟩ := travels "Grpc-Message" "m" (by decide +kernel)
      ⟨("grpc-message", utf8 "m"), by decide +kernel⟩
    rw [message] at protocol
    exact protocol (by decide)

/-- A header is accepted, and nothing is sent under its name. -/
theorem message_header_is_dropped :
    ∃ o http, ({} : Options).withHeader "grpc-message" "m" = .ok o ∧
      (Call.perform { request := { peerId := "p", data := "d" }, options := o }
        (.response {})).sent = some http ∧
      http.headers.values "grpc-message" = [] := by
  have accepted : ({} : Options).withHeader "grpc-message" "m" =
      .ok { headers := Headers.insert {} "grpc-message" (utf8 "m") } := by decide +kernel
  have brief : Options.IsBrief { headers := Headers.insert {} "grpc-message" (utf8 "m") } := by
    intro d set
    cases set
  obtain ⟨http, handed, sent⟩ := Call.values_of_room
    (c := { request := { peerId := "p", data := "d" }
            options := { headers := Headers.insert {} "grpc-message" (utf8 "m") } })
    brief (Options.hasRoom_of_few (by decide +kernel))
  refine ⟨_, http, accepted, by rw [Call.perform_of_toHttp handed (response_ready {})], ?_⟩
  rw [sent]
  decide +kernel

end Courier
