import Courier.Proofs.Call.OptionSteps
import Courier.Proofs.Call.RequestBody
import Courier.Proofs.Http.Values

/-!
# When a call reaches its transport

A call puts its headers together in three insertions: the deadline among the caller's headers, and
then two headers of the protocol among those that travel. Each of them crashes on a full map.
`Options.HasRoom` says that none of the three maps is full; with it a call that has no deadline or a
short enough one is sent (`toHttp_of_room`), without it the call crashes (`toHttp_of_crowded`). Fewer
than 6,552 names always leave the room (`Options.hasRoom_of_few`). The headers sent are those of the
caller under every name that is not the protocol's.
-/

namespace Courier

open Http (Headers)

/-! ## Names that travel -/

namespace Options

/-- The headers of the caller with the deadline that can be written, if there is one. -/
def stated (o : Options) : Headers :=
  match o.timeout.bind Duration.deadline? with
  | none => o.headers
  | some text => o.headers.insert timeoutHeader (utf8 text)

/-- The header map of a call is never full when something is to be inserted. -/
structure HasRoom (o : Options) : Prop where
  /-- The deadline is inserted among the caller's headers. -/
  deadline : o.timeout ≠ none → o.headers.isFull = false
  /-- The two headers of the protocol are inserted among those that travel. -/
  te : o.stated.sanitized.isFull = false
  contentType : (o.stated.sanitized.insert "te" (utf8 "trailers")).isFull = false

/-- The deadline, if there is one, has fewer than 10^8 whole hours. -/
def IsBrief (o : Options) : Prop :=
  ∀ d, o.timeout = some d → d.nanos / TimeUnit.hour.nanos < 100000000

theorem IsBrief.deadline? {o : Options} (brief : o.IsBrief) {d : Duration}
    (set : o.timeout = some d) : ∃ text, d.deadline? = some text := by
  have below := brief d set
  cases finest : d.finest? with
  | none =>
    have above := Duration.finest?_eq_none_iff.mp finest
    rw [Duration.maxCount] at above
    omega
  | some unit => exact ⟨_, by rw [Duration.deadline?, finest]; rfl⟩

/-- The values of a name in the metadata: the caller's, or the deadline in their place. -/
def metadataValues (o : Options) (name : String) : List Bytes :=
  match o.timeout with
  | some d =>
    if name = timeoutHeader then (d.deadline?.map utf8).toList else o.headers.values name
  | none => o.headers.values name

theorem metadataValues_of_ne (o : Options) {name : String} (ne : name ≠ timeoutHeader) :
    o.metadataValues name = o.headers.values name := by
  unfold metadataValues
  split
  · exact if_neg ne
  · rfl

theorem values_stated (o : Options) (brief : o.IsBrief) (name : String) :
    o.stated.values name = o.metadataValues name := by
  unfold stated metadataValues
  cases set : o.timeout with
  | none => rfl
  | some d =>
    obtain ⟨text, written⟩ := brief.deadline? set
    simp only [Option.bind_some, written, Option.map_some, Option.toList_some]
    by_cases same : name = timeoutHeader
    · rw [if_pos same, same, Headers.values_insert_self]
    · rw [if_neg same, Headers.values_insert_of_ne _ _ same]

/-- With a brief deadline, the metadata are the caller's headers and perhaps the deadline, unless
the map is full. -/
theorem metadata_of_brief {o : Options} (brief : o.IsBrief) :
    (o.timeout ≠ none ∧ o.headers.isFull = true ∧ o.metadata = .error .headersFull) ∨
    ((o.timeout ≠ none → o.headers.isFull = false) ∧ o.metadata = .ok o.stated) := by
  unfold metadata stated
  cases set : o.timeout with
  | none => exact .inr ⟨fun given => absurd rfl given, rfl⟩
  | some d =>
    obtain ⟨text, written⟩ := brief.deadline? set
    simp only [Option.bind_some, written]
    cases full : o.headers.isFull with
    | true => exact .inl ⟨Option.some_ne_none d, rfl, Headers.insert?_of_full full _ _⟩
    | false => exact .inr ⟨fun _ => rfl, Headers.insert?_of_room full _ _⟩

/-- A full map has no room for what a call without a deadline inserts, unless the call strips some
header from it before. -/
theorem not_hasRoom_of_full {o : Options} (unhurried : o.timeout = none)
    (own : ∀ name ∈ reservedHeaders, name ∉ o.headers.names) (full : o.headers.isFull = true) :
    ¬o.HasRoom := by
  intro room
  have travelling := room.te
  have stated : o.stated = o.headers := by
    rw [stated, unhurried]
    rfl
  rw [stated, Headers.sanitized_eq_self own, full] at travelling
  cases travelling

/-- Fewer than 6,552 names leave room for all that a call adds to them. -/
theorem hasRoom_of_few {o : Options} (few : o.headers.names.card < 6552) : o.HasRoom := by
  have stated : o.stated.names.card ≤ o.headers.names.card + 1 := by
    unfold stated
    split
    · exact Nat.le_succ _
    · rw [Headers.names_insert]
      exact Finset.card_insert_le _ _
  have travelling : o.stated.sanitized.names.card ≤ o.stated.names.card := by
    rw [Headers.names_sanitized]
    exact Finset.card_le_card Finset.sdiff_subset
  have more : (o.stated.sanitized.insert "te" (utf8 "trailers")).names.card ≤
      o.stated.sanitized.names.card + 1 := by
    rw [Headers.names_insert]
    exact Finset.card_insert_le _ _
  exact
    { deadline := fun _ => Headers.isFull_of_few (by omega)
      te := Headers.isFull_of_few (by omega)
      contentType := Headers.isFull_of_few (by omega) }

end Options

/-! ## Headers of the protocol -/

/-- The value that the protocol sends under a name that it keeps to itself, if it sends one. -/
def protocolValue? (name : String) : Option Bytes :=
  if name = "te" then some (utf8 "trailers")
  else if name = contentTypeHeader then some contentType
  else none

section Protocol

variable {m : Headers}

/-- The two headers of the protocol go where neither finds the map full, and nothing else is sent
under the names that the protocol keeps to itself; the others stay as they are. -/
theorem callHeaders_of_room (te : m.sanitized.isFull = false)
    (type : (m.sanitized.insert "te" (utf8 "trailers")).isFull = false) :
    ∃ h, callHeaders m = .ok h ∧ ∀ name, h.values name =
      if name ∈ reservedHeaders then (protocolValue? name).toList else m.values name := by
  have first := Headers.insert?_of_room te "te" (utf8 "trailers")
  have second := Headers.insert?_of_room type contentTypeHeader contentType
  refine ⟨(m.sanitized.insert "te" (utf8 "trailers")).insert contentTypeHeader contentType,
    ?_, ?_⟩
  · rw [callHeaders, first]
    exact second
  · intro name
    by_cases isType : name = contentTypeHeader
    · subst isType
      rw [Headers.values_insert_self, if_pos (by decide)]
      rfl
    · rw [Headers.values_insert_of_ne _ _ isType]
      by_cases isTe : name = "te"
      · subst isTe
        rw [Headers.values_insert_self, if_pos (by decide)]
        rfl
      · rw [Headers.values_insert_of_ne _ _ isTe, Headers.values_sanitized, protocolValue?,
          if_neg isTe, if_neg isType]
        rfl

/-- Where one of them finds it full, the call crashes. -/
theorem callHeaders_of_crowded
    (crowded : m.sanitized.isFull = false →
      (m.sanitized.insert "te" (utf8 "trailers")).isFull = true) :
    callHeaders m = .error .headersFull := by
  unfold callHeaders
  cases te : m.sanitized.isFull with
  | true => rw [Headers.insert?_of_full te]
  | false =>
    rw [Headers.insert?_of_room te]
    exact Headers.insert?_of_full (crowded te) _ _

end Protocol

/-! ## The request handed over -/

/-- The values of a name in the headers of a call. -/
def Options.sentValues (o : Options) (name : String) : List Bytes :=
  if name ∈ reservedHeaders then (protocolValue? name).toList else o.metadataValues name

/-- The HTTP request with these headers. -/
def Request.over (r : Request) (headers : Headers) : Http.Request :=
  { path := servicePath
    headers
    body := requestBody (Wire.Record.encode r.toWire) }

namespace Call

variable {c : Call}

/-- The options of a call decide about its headers, and its request about the rest. -/
theorem toHttp_eq (c : Call) : c.toHttp = c.options.sentHeaders.map c.request.over := by
  unfold toHttp Options.sentHeaders Request.toHttp
  cases c.options.metadata with
  | error crash => rfl
  | ok metadata =>
    dsimp only
    cases callHeaders metadata <;> rfl

/-- Calls with the same options hand over the same headers, whatever else they ask for. -/
theorem headers_of_same_options {c c' : Call} (same : c'.options = c.options) {reply reply' : Reply}
    (ready : ∀ cause, reply ≠ .notReady cause) (ready' : ∀ cause, reply' ≠ .notReady cause) :
    (c'.perform reply').sent.map (·.headers) = (c.perform reply).sent.map (·.headers) := by
  rw [perform_of_ready c ready, perform_of_ready c' ready', toHttp_eq c, toHttp_eq c', same]
  cases c.options.sentHeaders with
  | error crash => rfl
  | ok headers => rfl

/-- With room for its headers, a call is handed over with exactly these headers. -/
theorem values_of_room (brief : c.options.IsBrief) (room : c.options.HasRoom) :
    ∃ http, c.toHttp = .ok http ∧
      ∀ name, http.headers.values name = c.options.sentValues name := by
  rcases Options.metadata_of_brief brief with ⟨given, full, -⟩ | ⟨-, stated⟩
  · rw [room.deadline given] at full
    cases full
  · obtain ⟨headers, added, same⟩ := callHeaders_of_room room.te room.contentType
    have sent : c.options.sentHeaders = .ok headers := by
      rw [Options.sentHeaders, stated]
      exact added
    refine ⟨c.request.over headers, by rw [toHttp_eq, sent]; rfl, ?_⟩
    intro name
    show headers.values name = _
    rw [same name, Options.values_stated _ brief, Options.sentValues]

/-- With room for its headers, a call is handed over, and with it every header of the caller's
that is not the protocol's own. -/
theorem toHttp_of_room (brief : c.options.IsBrief) (room : c.options.HasRoom) :
    ∃ http, c.toHttp = .ok http ∧
      ∀ name ∉ reservedHeaders, name ≠ Options.timeoutHeader →
        http.headers.get? name = c.options.headers.get? name := by
  obtain ⟨http, handed, sent⟩ := values_of_room brief room
  refine ⟨http, handed, ?_⟩
  intro name own notTimeout
  rw [Headers.get?_eq_head?, sent, Options.sentValues, if_neg own,
    Options.metadataValues_of_ne _ notTimeout, ← Headers.get?_eq_head?]

/-- Without room for its headers, a call crashes. -/
theorem toHttp_of_crowded (brief : c.options.IsBrief) (crowded : ¬c.options.HasRoom) :
    c.toHttp = .error .headersFull := by
  rcases Options.metadata_of_brief brief with ⟨-, -, crashes⟩ | ⟨deadline, stated⟩
  · rw [toHttp, crashes]
  · have full : c.options.stated.sanitized.isFull = false →
        (c.options.stated.sanitized.insert "te" (utf8 "trailers")).isFull = true := by
      intro te
      by_contra free
      exact crowded ⟨deadline, te, Bool.eq_false_of_not_eq_true free⟩
    rw [toHttp, stated]
    show c.request.toHttp c.options.stated = _
    rw [Request.toHttp, callHeaders_of_crowded full]

/-- So nothing is sent, whatever the transport does once it is ready. -/
theorem perform_of_crowded (brief : c.options.IsBrief) (crowded : ¬c.options.HasRoom)
    {reply : Reply} (ready : ∀ cause, reply ≠ .notReady cause) :
    c.perform reply = { sent := none, outcome := .error (.crashed .headersFull) } :=
  perform_of_crash (toHttp_of_crowded brief crowded) ready

/-- A call that was handed over had room, so its headers are known. -/
theorem values_of_toHttp {http : Http.Request} (brief : c.options.IsBrief)
    (handed : c.toHttp = .ok http) :
    ∀ name, http.headers.values name = c.options.sentValues name := by
  by_cases room : c.options.HasRoom
  · obtain ⟨http', handed', values⟩ := values_of_room brief room
    rw [handed] at handed'
    cases handed'
    exact values
  · rw [toHttp_of_crowded brief room] at handed
    cases handed

end Call

end Courier
