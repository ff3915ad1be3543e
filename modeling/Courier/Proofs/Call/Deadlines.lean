import Courier.Proofs.Call.Crashes

/-!
# Deadlines that cannot be sent

Any deadline is taken into the options of a call, and only the call writes it down. There are no
more than eight digits for its hours, and a longer one crashes the call before the transport is
asked for anything (`perform_of_long`). A shorter one is sent, and what becomes of the call is then
up to the reply alone (`outcome_of_isReadable`).
-/

namespace Courier

/-! ## Long deadlines -/

theorem Options.metadata_of_long {o : Options} (long : ¬o.IsBrief) :
    o.metadata = .error .deadlineTooLong := by
  unfold IsBrief at long
  push Not at long
  obtain ⟨d, set, above⟩ := long
  have unwritten : d.deadline? = none := by
    have finest : d.finest? = none := Duration.finest?_eq_none_iff.mpr above
    rw [Duration.deadline?, finest]
    rfl
  rw [metadata, set]
  simp only [unwritten]

namespace Call

variable {c : Call}

theorem toHttp_of_long (long : ¬c.options.IsBrief) : c.toHttp = .error .deadlineTooLong := by
  rw [toHttp, Options.metadata_of_long long]

/-- The deadline is looked at before the transport, so even one that is never ready does not keep
the call from crashing. -/
theorem perform_of_long (long : ¬c.options.IsBrief) (reply : Reply) :
    c.perform reply = { sent := none, outcome := .error (.crashed .deadlineTooLong) } := by
  unfold perform
  rw [Options.metadata_of_long long]

end Call

/-! ## Readable replies -/

/-- A reply that gives no reason for a crash: the status of a response can be read, and its names
fit into one header map. -/
def Reply.IsReadable (reply : Reply) : Prop :=
  ∀ r, reply = .response r → (∀ fault, ¬r.Undecodable fault) ∧ ¬r.Crowded

theorem Reply.outcome_of_isReadable {reply : Reply} (readable : reply.IsReadable) :
    (∃ s, reply.outcome = .ok s) ∨ ∃ status, reply.outcome = .error (.failed status) := by
  cases outcome : reply.outcome with
  | ok s => exact .inl ⟨s, rfl⟩
  | error e =>
    cases e with
    | failed status => exact .inr ⟨status, rfl⟩
    | crashed crash =>
      cases reply with
      | notReady cause => cases outcome
      | failure cause => cases outcome
      | response r =>
        obtain ⟨decodable, uncrowded⟩ := readable r rfl
        rcases Http.Response.of_reply_eq_crashed outcome with ⟨fault, -, undecodable⟩ | ⟨-, crowded⟩
        · exact absurd undecodable (decodable fault)
        · exact absurd crowded uncrowded

end Courier
