import Courier.Proofs.Http.Names
import Courier.Proofs.Server.WirePath

/-!
# Traces that come back

A client accepts a header value without control characters, and the server shows one that is
visible in ASCII. The two tests differ in exactly the characters beyond ASCII
(`isVisible_of_isHeaderValue`). A trace with such a character is accepted and sent as it is, and
what comes back in its place is the empty text.
-/

namespace Courier

open Http (Headers)

/-! ## The two tests of a value -/

namespace Http

/-- Whether a text is in ASCII. -/
def isAscii (s : String) : Bool := s.toList.all fun c => decide (c.toNat < 0x80)

/-- Of the values that are accepted, those in ASCII are visible. -/
theorem isVisible_of_isHeaderValue {value : String} (accepted : isHeaderValue value = true) :
    isVisible value = isAscii value := by
  have each : ∀ c ∈ value.toList,
      ((c == '\t' || (decide (0x20 ≤ c.toNat) && decide (c.toNat < 0x7F))) = true ↔
        decide (c.toNat < 0x80) = true) := by
    intro c mem
    have allowed := List.all_eq_true.mp accepted c mem
    have tab : c = '\t' ↔ c.toNat = 9 := Char.toNat_inj.symm
    simp only [isValueChar, Bool.or_eq_true, Bool.and_eq_true, beq_iff_eq, bne_iff_ne, ne_eq,
      decide_eq_true_eq, tab] at allowed ⊢
    omega
  rw [Bool.eq_iff_iff, isVisible, isAscii, List.all_eq_true, List.all_eq_true]
  exact forall₂_congr each

/-- What the server shows of a value that was accepted. -/
theorem shown_of_isHeaderValue {value : String} (accepted : isHeaderValue value = true) :
    (visibleText? (utf8 value)).getD "" = if isAscii value then value else "" := by
  rw [visibleText?_utf8, isVisible_of_isHeaderValue accepted]
  split <;> rfl

end Http

/-! ## Options with a trace -/

/-- The name of a trace. -/
def traceHeader : String := "x-trace"

namespace Options

/-- Options that hold a trace and nothing else. -/
def tracedBy (value : String) : Options :=
  { headers := Headers.insert {} traceHeader (utf8 value) }

/-- Whatever the case of its key, a trace is accepted by its value, and it is all that the options
hold. -/
theorem withHeader_trace_iff {key value : String} {o : Options}
    (spells : key.map Char.toLower = traceHeader) :
    ({} : Options).withHeader key value = .ok o ↔
      Http.isHeaderValue value = true ∧ o = tracedBy value := by
  have named : metadataName? key = some traceHeader := by
    rw [← metadataName?_map_toLower, spells]
    decide +kernel
  rw [withHeader_eq_ok_iff]
  constructor
  · rintro ⟨name, same, allowed, -, rfl⟩
    rw [named] at same
    cases same
    exact ⟨allowed, rfl⟩
  · rintro ⟨allowed, rfl⟩
    exact ⟨traceHeader, named, allowed, by decide, rfl⟩

theorem isBrief_tracedBy (value : String) : (tracedBy value).IsBrief := by
  intro d set
  cases set

theorem hasRoom_tracedBy (value : String) : (tracedBy value).HasRoom := by
  have single : (tracedBy value).headers.names.card ≤ 1 := by
    show (Headers.insert {} traceHeader (utf8 value)).names.card ≤ 1
    rw [Headers.names_insert]
    exact Finset.card_insert_le _ _
  exact hasRoom_of_few (Nat.lt_of_le_of_lt single (by decide))

/-- The server shows an accepted trace if it is in ASCII. -/
theorem traceText_tracedBy {value : String} (allowed : Http.isHeaderValue value = true) :
    traceText (tracedBy value).headers = if Http.isAscii value then value else "" := by
  have held : (tracedBy value).headers.get? "x-trace" = some (utf8 value) :=
    Headers.get?_insert_self _ _ _
  rw [traceText, held]
  exact Http.shown_of_isHeaderValue allowed

end Options

/-- The meaning of a request to the peer that answers with traces. -/
theorem Request.meaning_of_headers {r : Request} (peer : r.peerId = "headers") (trace : String) :
    r.meaning trace = .ok trace := by
  simp only [meaning, peer]
  rfl

/-! ## A trace on its way -/

/-- A trace arrives at the server as it was accepted, but it comes back only if it is in ASCII;
any other one that is accepted comes back empty. -/
theorem only_ascii_traces_come_back (key value : String)
    (spells : key.map Char.toLower = traceHeader) (o : Options)
    (accepted : ({} : Options).withHeader key value = .ok o) (r : Request)
    (peer : r.peerId = "headers") (short : Wire.Record.size r.toWire ≤ messageLimit)
    (shortTrace :
      Wire.Record.size (traceResponse (if Http.isAscii value then value else "")) ≤
        messageLimit) :
    (∃ http, Call.toHttp { request := r, options := o } = .ok http ∧
      http.headers.values traceHeader = [utf8 value]) ∧
    Session.run {} [.call 0 { request := r, options := o }] =
      [{ result := .outcome (.ok (if Http.isAscii value then value else ""))
         received := [r.toWire]
         total := 1 }] ∧
    ∀ value', (∃ o', ({} : Options).withHeader key value' = .ok o') ↔
      Http.isHeaderValue value' = true := by
  obtain ⟨allowed, rfl⟩ := (Options.withHeader_trace_iff spells).mp accepted
  rw [← Options.traceText_tracedBy allowed] at shortTrace ⊢
  refine ⟨?_, ?_, ?_⟩
  · obtain ⟨http, handed, sent⟩ :=
      Call.values_of_room (c := { request := r, options := Options.tracedBy value })
        (Options.isBrief_tracedBy value) (Options.hasRoom_tracedBy value)
    refine ⟨http, handed, ?_⟩
    rw [sent, Options.sentValues, if_neg (by decide),
      Options.metadataValues_of_ne _ (by decide)]
    exact Headers.values_insert_self _ _ _
  · obtain ⟨http, handed, recorded, meant⟩ :=
      Call.toHttp_means (c := { request := r, options := Options.tracedBy value })
        (Options.isBrief_tracedBy value) (Options.hasRoom_tracedBy value)
        (Headers.get?_insert_of_ne _ _ (by decide)) short fun _ => shortTrace
    have called := Recorder.call_of_toHttp {} handed recorded
    rw [meant, Request.meaning_of_headers peer] at called
    exact Session.run_call called
  · intro value'
    constructor
    · rintro ⟨o', accepted'⟩
      exact ((Options.withHeader_trace_iff spells).mp accepted').1
    · intro allowed'
      exact ⟨_, (Options.withHeader_trace_iff spells).mpr ⟨allowed', rfl⟩⟩

/-- A trace with a space, a tab and a quote in it comes back. -/
theorem spaced_trace_comes_back :
    ∃ o, ({} : Options).withHeader "X-Trace" "a b\t\"c\"" = .ok o ∧
      Session.run {}
          [.call 0 { request := { peerId := "headers", data := "größe" }, options := o }] =
        [{ result := .outcome (.ok "a b\t\"c\"")
           received := [Request.toWire { peerId := "headers", data := "größe" }]
           total := 1 }] := by
  have spells : "X-Trace".map Char.toLower = traceHeader := by decide +kernel
  have accepted : ({} : Options).withHeader "X-Trace" "a b\t\"c\"" =
      .ok (Options.tracedBy "a b\t\"c\"") := by decide +kernel
  have ascii : Http.isAscii "a b\t\"c\"" = true := by decide +kernel
  obtain ⟨-, returned, -⟩ := only_ascii_traces_come_back "X-Trace" "a b\t\"c\"" spells _ accepted
    { peerId := "headers", data := "größe" } rfl (by decide +kernel) (by decide +kernel)
  rw [if_pos ascii] at returned
  exact ⟨_, accepted, returned⟩

/-- A trace with an accent is accepted, and the empty text comes back. -/
theorem accented_trace_comes_back_empty :
    ∃ o, ({} : Options).withHeader "x-trace" "é" = .ok o ∧
      Session.run {} [.call 0 { request := { peerId := "headers", data := "d" }, options := o }] =
        [{ result := .outcome (.ok "")
           received := [Request.toWire { peerId := "headers", data := "d" }]
           total := 1 }] := by
  have accepted : ({} : Options).withHeader "x-trace" "é" = .ok (Options.tracedBy "é") := by
    decide +kernel
  have called : Recorder.call {} .direct
      { request := { peerId := "headers", data := "d" }, options := Options.tracedBy "é" } =
      ({ log := [Request.toWire { peerId := "headers", data := "d" }] }, .ok "") := by
    decide +kernel
  exact ⟨_, accepted, Session.run_call called⟩

end Courier
