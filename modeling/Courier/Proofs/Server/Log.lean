import Courier.Proofs.Server.Verdicts

/-!
# The log of a server

A server takes requests one after the other, and each leaves the log as it was or adds one entry at
its end. A run over two rows of requests is the run over the first and then, from the server that it
leaves, the run over the second (`serve_append`), so that a request can be looked at wherever it
stands. What it adds and what comes of it is what a new server would make of it, and only a request
that begins with the message of the entry adds one (`log_grows_by_single_requests`).
-/

namespace Courier

open Http (Headers)

/-! ## Requests that are recorded -/

/-- A request whose data before the first trailers begin with a frame, whole and not too long, that
spells `m`. -/
def Http.Request.BeginsWith (r : Http.Request) (m : Wire.SendRequest) : Prop :=
  ∃ l₁ l₂ l₃ l₄ message left,
    Http.bodyBytes (beforeTrailers r.body) = 0 :: l₁ :: l₂ :: l₃ :: l₄ :: (message ++ left) ∧
    bigEndian l₁ l₂ l₃ l₄ = message.length ∧ message.length ≤ messageLimit ∧
    Wire.Record.decode message = .ok m

/-- A request that is received begins with its message. -/
theorem Http.Request.beginsWith_of_receive {r : Http.Request} {received : Received}
    (unbroken : Unbroken r.body) (accepted : r.receive = .ok received) :
    r.BeginsWith received.message := by
  obtain ⟨-, message, left, valid, parts, -⟩ := of_receive_eq_ok accepted
  obtain ⟨l₁, l₂, l₃, l₄, framed, length⟩ :=
    frameMessage_eq message (length_lt_of_le_messageLimit valid.short)
  obtain ⟨-, bytes⟩ := beforeTrailers_of_unbroken unbroken.ending_ne
  refine ⟨l₁, l₂, l₃, l₄, message, left, ?_, length, valid.short, valid.decodes⟩
  rw [bytes, parts, framed]
  rfl

/-- Only a call of the service is recorded, and what is recorded is the message that it begins
with. -/
theorem Http.Request.of_recorded?_eq_some {r : Http.Request} (unbroken : Unbroken r.body)
    {m : Wire.SendRequest} (recorded : r.recorded? = some m) :
    r.path = servicePath ∧ r.BeginsWith m := by
  rcases r.result_cases with
    ⟨none, -⟩ | ⟨received, path, accepted, ⟨some, -⟩ | ⟨-, none, -⟩⟩
  · rw [none] at recorded
    cases recorded
  · rw [some] at recorded
    cases recorded
    exact ⟨path, beginsWith_of_receive unbroken accepted⟩
  · rw [none] at recorded
    cases recorded

/-- A request that is answered with success is recorded. -/
theorem Http.Request.recorded?_of_success {r : Http.Request} (unbroken : Unbroken r.body)
    {a : Http.Response} (answered : r.result = .ok a) (good : utf8 "0" ∈ a.verdicts) :
    ∃ m, r.recorded? = some m := by
  rcases answer_cases unbroken answered with refuses | ⟨received, m, -, -, recorded, -⟩
  · obtain ⟨code, failed, said⟩ := refuses.verdict
    rw [said, List.mem_singleton] at good
    exact absurd good.symm (Code.toBytes_ne failed)
  · exact ⟨received.message, recorded⟩

/-- A request that crashes the server is not recorded. -/
theorem Http.Request.recorded?_of_crash {r : Http.Request} {crash : Crash}
    (crashed : r.result = .error crash) : r.recorded? = none := by
  rcases r.result_cases with
    ⟨none, -⟩ | ⟨received, -, -, ⟨-, answered⟩ | ⟨-, none, -⟩⟩
  · exact none
  · rw [answered] at crashed
    cases crashed
  · exact none

/-- Of a call nothing else is recorded than its request. -/
theorem Call.recorded?_of_toHttp {c : Call} {http : Http.Request} (handed : c.toHttp = .ok http)
    {m : Wire.SendRequest} (recorded : http.recorded? = some m) : m = c.request.toWire := by
  obtain ⟨-, body⟩ := body_of_toHttp handed
  rcases http.result_cases with
    ⟨none, -⟩ | ⟨received, -, accepted, ⟨some, -⟩ | ⟨-, none, -⟩⟩
  · rw [none] at recorded
    cases recorded
  · rw [some] at recorded
    cases recorded
    obtain ⟨-, message, left, valid, parts, -⟩ := Http.Request.of_receive_eq_ok accepted
    rw [body] at parts
    unfold requestBody at parts
    split at parts
    · -- A message that was not framed leaves no bytes to begin with.
      cases parts
    · next fits =>
      have short := framingFault?_eq_none_iff.mp fits
      have framed : frameMessage (Wire.Record.encode c.request.toWire) ++ [] =
          frameMessage message ++ left := parts
      obtain ⟨rfl, -⟩ := frameMessage_append_inj (Nat.lt_succ_of_le short)
        (length_lt_of_le_messageLimit valid.short) framed
      have size : Wire.Record.size c.request.toWire < 0x100000000 := by
        rw [← Wire.Overlay.length_encode]
        exact Nat.lt_succ_of_le short
      have decodes := valid.decodes
      rw [Request.decode_encode_toWire size] at decodes
      exact (Except.ok.inj decodes).symm
  · rw [none] at recorded
    cases recorded

/-! ## Runs -/

namespace Recorder

variable (server : Recorder)

/-- A run goes on where the first part of it has ended. -/
theorem serve_append (first second : List Http.Request) :
    server.serve (first ++ second) =
      (((server.serve first).1.serve second).1,
        (server.serve first).2 ++ ((server.serve first).1.serve second).2) := by
  induction first generalizing server with
  | nil => rfl
  | cons r rest ih =>
    rw [List.cons_append, serve, serve, ih]
    rfl

theorem length_answers (requests : List Http.Request) :
    (server.serve requests).2.length = requests.length := by
  induction requests generalizing server with
  | nil => rfl
  | cons r rest ih => exact congrArg (· + 1) (ih (server.receive r))

/-- The log is never changed but at its end. -/
theorem log_serve (requests : List Http.Request) :
    (server.serve requests).1.log = server.log ++ requests.flatMap (·.recorded?.toList) := by
  induction requests generalizing server with
  | nil => exact (List.append_nil _).symm
  | cons r rest ih =>
    show ((server.receive r).serve rest).1.log = _
    rw [ih, receive, List.flatMap_cons, List.append_assoc]

theorem log_prefix (first second : List Http.Request) :
    (server.serve first).1.log <+: (server.serve (first ++ second)).1.log := by
  rw [serve_append, log_serve (server.serve first).1]
  exact List.prefix_append _ _

end Recorder

/-- Wherever a request stands in a row of requests, it adds to the log and is answered as it would
be alone. It adds at most one entry, at the end of the log and for good. It does so if it is answered
with success, and the entry is the message that it begins with; a request to another path, or one
that does not begin with a message, adds nothing. -/
theorem log_grows_by_single_requests (server : Recorder) (before after : List Http.Request)
    (r : Http.Request) (unbroken : Unbroken r.body) :
    ∃ added result,
      Recorder.serve {} [r] = ({ log := added }, [(result, added.length)]) ∧
      added.length ≤ 1 ∧
      (server.serve (before ++ [r])).1.log = (server.serve before).1.log ++ added ∧
      (server.serve (before ++ [r])).1.log <+: (server.serve (before ++ r :: after)).1.log ∧
      (server.serve (before ++ r :: after)).2[before.length]? =
        some (result, (server.serve (before ++ [r])).1.log.length) ∧
      (∀ a, result = .ok a → utf8 "0" ∈ a.verdicts → added.length = 1) ∧
      (∀ crash, result = .error crash → added = []) ∧
      (∀ m ∈ added, r.BeginsWith m) ∧
      (r.path ≠ servicePath ∨ (∀ m, ¬r.BeginsWith m) → added = []) := by
  have grown : (server.serve (before ++ [r])).1.log =
      (server.serve before).1.log ++ r.recorded?.toList := by
    rw [Recorder.serve_append]
    rfl
  have begins : ∀ m ∈ r.recorded?.toList, r.path = servicePath ∧ r.BeginsWith m := fun m mem =>
    Http.Request.of_recorded?_eq_some unbroken (Option.mem_toList.mp mem)
  refine ⟨r.recorded?.toList, r.result, rfl, Option.length_toList_le, grown, ?_, ?_, ?_, ?_, ?_, ?_⟩
  · rw [List.append_cons before r after]
    exact server.log_prefix _ _
  · have place := Recorder.length_answers server before
    rw [grown, Recorder.serve_append, ← place, List.getElem?_append_right (Nat.le_refl _),
      Nat.sub_self]
    rfl
  · intro a answered good
    obtain ⟨m, recorded⟩ := Http.Request.recorded?_of_success unbroken answered good
    rw [recorded]
    rfl
  · intro crash crashed
    rw [Http.Request.recorded?_of_crash crashed]
    rfl
  · exact fun m mem => (begins m mem).2
  · intro unfit
    refine List.eq_nil_iff_forall_not_mem.mpr fun m mem => ?_
    obtain ⟨path, begin⟩ := begins m mem
    rcases unfit with elsewhere | never
    · exact elsewhere path
    · exact never m begin

/-- A request to the service behind one to another path. -/
theorem silent_request_is_recorded :
    Unbroken silentRequest.body ∧
    (Recorder.serve {} [{ silentRequest with path := "/other" }, silentRequest]).1.log =
      [{ peer := some { peerId := "silent" } }] ∧
    silentRequest.BeginsWith { peer := some { peerId := "silent" } } := by
  have unbroken : Unbroken silentRequest.body := fun cause mem => by
    simp [silentRequest] at mem
  have recorded : silentRequest.recorded? = some { peer := some { peerId := "silent" } } := by
    decide +kernel
  obtain ⟨added, result, alone, -, grown, -, -, -, -, begins, -⟩ :=
    log_grows_by_single_requests {} [{ silentRequest with path := "/other" }] [] silentRequest
      unbroken
  have entry : added = [{ peer := some { peerId := "silent" } }] := by
    have log := congrArg (·.1.log) alone
    rw [Recorder.log_serve] at log
    simpa [recorded] using log.symm
  refine ⟨unbroken, ?_, begins _ (entry ▸ List.mem_singleton_self _)⟩
  refine grown.trans ?_
  rw [entry, Recorder.log_serve]
  rfl

end Courier
