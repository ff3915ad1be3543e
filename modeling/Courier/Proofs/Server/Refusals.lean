import Courier.Proofs.Call.Deadlines
import Courier.Proofs.Server.Answering

/-!
# What the server refuses with

A request whose body does not break off is refused for what the server finds in it, so the status is
the server's own: it is a failure without details, and its metadata name at most the encodings that
the server takes (`isOwn_of_receive_eq_error`). Every answer to such a request can be read, and none
makes its caller crash.
-/

namespace Courier

open Http (Headers)

/-! ## Statuses of the server's own -/

/-- A failure without details, whose metadata name at most the encodings that are taken. -/
structure Status.IsOwn (s : Status) : Prop where
  failed : s.code ≠ .ok
  details : s.details = []
  metadata : s.metadata.names ⊆ {"grpc-accept-encoding"}

/-- A plain failure is one of them. -/
theorem Status.IsPlain.isOwn {s : Status} (plain : s.IsPlain) : s.IsOwn where
  failed := plain.failed
  details := plain.details
  metadata := by
    rw [plain.metadata]
    exact Finset.empty_subset _

theorem Status.isOwn_of_message {code : Code} (failed : code ≠ .ok) (message : String) :
    Status.IsOwn { code, message } := (isPlain_of_message failed message).isOwn

/-- A request that breaks off before its message fails with the reason, unless its client gave
up. -/
theorem Stream.next_of_failure {α : Type} [Wire.Record α] {status : Status}
    (code : status.code ≠ .cancelled) :
    (next .request { body := [.failure (.status status)] } : Except Status (Next α)) =
      .error status :=
  next_of_failed (pull_failure (.status status) (fun _ => code) [])

theorem of_framingFault? {message : Bytes} {s : Status} (faulty : framingFault? message = some s) :
    s.IsOwn ∧ s.code = .resourceExhausted := by
  unfold framingFault? at faulty
  split at faulty
  · cases faulty
    exact ⟨Status.isOwn_of_message (by decide) _, rfl⟩
  · cases faulty

theorem isOwn_of_encodingFault? {h : Headers} {s : Status} (faulty : encodingFault? h = some s) :
    s.IsOwn := by
  unfold encodingFault? at faulty
  split at faulty
  · cases faulty
  · split at faulty
    · cases faulty
    · cases faulty
      exact ⟨nofun, rfl, Finset.Subset.refl _⟩

namespace Http.Request

variable {r : Request}

/-- A request that does not break off is refused with a status of the server's own. -/
theorem isOwn_of_receive_eq_error {status : Status} (unbroken : Unbroken r.body)
    (refused : r.receive = .error status) : status.IsOwn := by
  unfold receive at refused
  split at refused
  · next faulty =>
    cases refused
    exact isOwn_of_encodingFault? faulty
  · split at refused
    · next first =>
      cases refused
      exact ((Stream.comesOf_of_next_eq_error first).isPlain unbroken).isOwn
    · cases refused
      exact Status.isOwn_of_message (by decide) _
    · next first =>
      split at refused
      · next failed =>
        cases refused
        have later := Stream.comesOf_of_drain_eq_error failed
        have part := Stream.subset_of_next_eq_message first
        exact ((later.mono part).isPlain unbroken).isOwn
      · cases refused

end Http.Request

/-! ## Answers that can be read -/

namespace Status

variable {s : Status}

theorem IsOwn.names_sanitized (own : s.IsOwn) :
    s.metadata.sanitized.names ⊆ {"grpc-accept-encoding"} := by
  rw [Headers.names_sanitized]
  exact Finset.sdiff_subset.trans own.metadata

/-- A status of the server's own is written under few names. -/
theorem names_write_of_isOwn (own : s.IsOwn) (h : Headers) :
    (s.write h).names ⊆ h.names ∪ {"grpc-accept-encoding", codeHeader, messageHeader} := by
  have entries : (s.entries.map (·.1)).toFinset ⊆ {codeHeader, messageHeader} := by
    unfold entries
    rw [own.details]
    split
    · exact Finset.singleton_subset_iff.mpr (Finset.mem_insert_self _ _)
    · exact Finset.Subset.refl {codeHeader, messageHeader}
  rw [write, Headers.names_insertAll, Headers.names_extend, Finset.union_assoc]
  have added := Finset.union_subset_union own.names_sanitized entries
  exact Finset.union_subset_union_right (added.trans (by decide))

/-- So there is room for it in the headers of an answer. -/
theorem hasRoom_of_isOwn (own : s.IsOwn) : s.hasRoom answerHeaders = true := by
  have known := names_write_of_isOwn own answerHeaders
  have few : (s.write answerHeaders).names.card < 6554 :=
    Nat.lt_of_le_of_lt (Finset.card_le_card known) (by decide +kernel)
  rw [write, Headers.names_insertAll] at few
  rw [hasRoom, Bool.and_eq_true]
  refine ⟨Headers.fits_of_few ?_,
    Headers.takes_of_few (fun h e => Headers.names_insert h e.1 e.2) few⟩
  rw [← Headers.names_extend]
  exact Nat.lt_of_le_of_lt (Finset.card_le_card Finset.subset_union_left) few

end Status

namespace Http.Response

/-- A response is readable if its headers and its body have few names, and no details among them. -/
theorem isReadable_of_namedBy {r : Response}
    (named : r.NamedBy
      {contentTypeHeader, "grpc-accept-encoding", Status.codeHeader, Status.messageHeader}) :
    (Reply.response r).IsReadable := by
  rintro _ ⟨⟩
  refine ⟨?_, not_crowded_of_few named (by decide)⟩
  have bare : ∀ h : Headers, h.names ⊆
      {contentTypeHeader, "grpc-accept-encoding", Status.codeHeader, Status.messageHeader} →
      ∀ fault, ¬h.BadDetails fault := by
    intro h known fault bad
    obtain ⟨value, there, -⟩ := bad.details
    have held : Status.detailsHeader ∈ h.names := by
      by_contra absent
      rw [Headers.get?_eq_none_iff.mpr absent] at there
      cases there
    exact absurd (known held) (by decide)
  intro fault undecodable
  cases undecodable with
  | headers plain bad => exact bare _ named.headers fault bad
  | @trailers read plain silent drained bad =>
    refine bare read ?_ fault bad
    have last := named.trailers
    rw [← Stream.trailers_of_drain (by simp) drained, Option.getD_some] at last
    exact last

end Http.Response

/-- The trailers of an answer with a message hold a status and no more. -/
theorem names_of_mem_responseBody {message : Bytes} {frame : BodyFrame}
    (mem : frame ∈ responseBody message) :
    frame.names ⊆ {"grpc-accept-encoding", Status.codeHeader, Status.messageHeader} := by
  unfold responseBody at mem
  split at mem
  · next status faulty =>
    cases List.mem_singleton.mp mem
    have known := Status.names_write_of_isOwn (of_framingFault? faulty).1 {}
    rw [show ({} : Headers).names = ∅ from rfl, Finset.empty_union] at known
    exact known
  · rcases List.mem_pair.mp mem with rfl | rfl
    · exact Finset.empty_subset _
    · decide +kernel

theorem isReadable_messageResponse (m : Wire.Response) :
    (Reply.response (messageResponse m)).IsReadable := by
  have known : answerHeaders.names ⊆
      {contentTypeHeader, "grpc-accept-encoding", Status.codeHeader, Status.messageHeader} := by
    decide +kernel
  refine Http.Response.isReadable_of_namedBy ⟨known, ?_⟩
  intro frame mem
  exact (names_of_mem_responseBody mem).trans (by decide)

theorem isReadable_failureResponse {s : Status} (own : s.IsOwn) :
    (Reply.response (failureResponse s)).IsReadable := by
  have known := Status.names_write_of_isOwn own answerHeaders
  exact Http.Response.isReadable_of_namedBy ⟨known.trans (by decide +kernel), nofun⟩

/-- The answer to a request that is refused only with a status of the server's own can be read. -/
theorem Http.Request.isReadable_answer {r : Http.Request}
    (own : ∀ status, r.receive = .error status → status.IsOwn) :
    (Reply.response r.answer).IsReadable := by
  unfold Http.Request.answer
  split
  · split
    · next refused => exact isReadable_failureResponse (own _ refused)
    · next received accepted =>
      unfold answerResponse Received.respond
      split
      · next failed =>
        split at failed
        · cases failed
          exact isReadable_failureResponse (Status.isOwn_of_message (by decide) _)
        · split at failed
          · cases failed
          · split at failed <;> cases failed
      · exact isReadable_messageResponse _
  · refine Http.Response.isReadable_of_namedBy ⟨by decide +kernel, ?_⟩
    intro frame mem
    cases mem

namespace Call

variable {c : Call} {http : Http.Request}

/-- The request of a call does not break off, or it does so with the reason why its message cannot
be framed, and the server refuses it with that. -/
theorem isOwn_of_receive_eq_error (handed : c.toHttp = .ok http) {status : Status}
    (refused : http.receive = .error status) : status.IsOwn := by
  obtain ⟨-, body⟩ := body_of_toHttp handed
  unfold requestBody at body
  split at body
  · next fault faulty =>
    obtain ⟨own, code⟩ := of_framingFault? faulty
    unfold Http.Request.receive at refused
    rw [body, Stream.next_of_failure (by rw [code]; decide)] at refused
    split at refused
    · next unencoded =>
      cases refused
      exact isOwn_of_encodingFault? unencoded
    · cases refused
      exact own
  · have unbroken : Unbroken http.body := by
      intro cause mem
      rw [body, List.mem_singleton] at mem
      cases mem
    exact Http.Request.isOwn_of_receive_eq_error unbroken refused

end Call

end Courier
