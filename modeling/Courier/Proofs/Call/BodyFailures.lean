import Courier.Proofs.Call.Bodies

/-!
# What reading a body fails with

Reading a body fails for what the reader finds in it, with a plain failure of the reader's own, or
because one of its frames is a failure, with the status of that failure (`comesOf_of_next_eq_error`,
`comesOf_of_drain_eq_error`). So only a frame can bring metadata along.
-/

namespace Courier

open Http (Headers)

/-- A failure that has a message and nothing else. -/
structure Status.IsPlain (s : Status) : Prop where
  failed : s.code ≠ .ok
  details : s.details = []
  metadata : s.metadata = {}

theorem Status.isPlain_of_message {code : Code} (failed : code ≠ .ok) (message : String) :
    Status.IsPlain { code, message } := ⟨failed, rfl, rfl⟩

/-- A plain failure, or the status of a frame. -/
def Status.ComesOf (s : Status) (body : List BodyFrame) : Prop :=
  s.IsPlain ∨ ∃ cause, .failure cause ∈ body ∧ s = cause.toStatus

theorem Status.ComesOf.mono {s : Status} {body whole : List BodyFrame} (comes : s.ComesOf body)
    (part : body ⊆ whole) : s.ComesOf whole :=
  comes.imp_right fun ⟨cause, mem, same⟩ => ⟨cause, part mem, same⟩

/-- A body in which no frame is a failure. -/
def Unbroken (body : List BodyFrame) : Prop := ∀ cause, BodyFrame.failure cause ∉ body

/-- Such a body only makes its reader fail plainly. -/
theorem Status.ComesOf.isPlain {s : Status} {body : List BodyFrame} (comes : s.ComesOf body)
    (unbroken : Unbroken body) : s.IsPlain :=
  comes.resolve_right fun ⟨cause, mem, _⟩ => unbroken cause mem

/-! ## Steps -/

theorem Reading.isPlain_of_frameFault? {reading : Reading} {flag : UInt8} {n : Nat} {s : Status}
    (faulty : reading.frameFault? flag n = some s) : s.IsPlain := by
  unfold frameFault? at faulty
  split at faulty
  · cases faulty
    exact Status.isPlain_of_message (by decide) _
  · split at faulty
    · cases faulty
      exact Status.isPlain_of_message (by decide) _
    · split at faulty
      · cases faulty
        exact Status.isPlain_of_message (by decide) _
      · cases faulty

theorem Buffer.isPlain_of_take_eq_error {reading : Reading} {b : Buffer} {s : Status}
    (faulty : b.take reading = .error s) : s.IsPlain := by
  unfold take at faulty
  split at faulty
  · cases faulty
  · split at faulty
    · next found =>
      cases faulty
      exact Reading.isPlain_of_frameFault? found
    · cases faulty
  · cases faulty

namespace Stream

variable {reading : Reading}

/-- What may come of a body: a failure that comes of it, its end, or a message with a part of it
behind. -/
def Step.StaysIn (body : List BodyFrame) : Step → Prop
  | .failed s => s.ComesOf body
  | .finished _ => True
  | .message _ rest => rest.body ⊆ body

theorem Step.StaysIn.mono {body whole : List BodyFrame} {step : Step} (stays : step.StaysIn body)
    (part : body ⊆ whole) : step.StaysIn whole := by
  cases step with
  | message bytes rest => exact List.Subset.trans stays part
  | finished trailers => trivial
  | failed s => exact Status.ComesOf.mono stays part

theorem pullFrom_staysIn (reading : Reading) (buffer : Buffer) (body : List BodyFrame) :
    (pullFrom reading buffer body).StaysIn body := by
  fun_induction pullFrom reading buffer body with
  | case1 buffer body fault faulty => exact .inl (Buffer.isPlain_of_take_eq_error faulty)
  | case2 => exact List.Subset.refl _
  | case3 => trivial
  | case4 => exact .inl (Status.isPlain_of_message (by decide) _)
  | case5 buffer rest waits bytes body ih => exact ih.mono (List.subset_cons_self _ _)
  | case6 => trivial
  | case7 => trivial
  | case8 buffer rest waits cause body => exact .inr ⟨cause, List.mem_cons_self, rfl⟩

/-! ## Records -/

section Records

variable {α : Type} [Wire.Record α] {s : Stream} {body : List BodyFrame}

theorem comesOf_of_next_eq_error {status : Status}
    (failed : (s.next reading : Except Status (Next α)) = .error status) :
    status.ComesOf s.body := by
  have stays : (s.pull reading).StaysIn s.body := pullFrom_staysIn reading s.buffer s.body
  unfold next at failed
  split at failed
  · next pulled =>
    cases failed
    rw [pulled] at stays
    exact stays
  · cases failed
  · split at failed
    · cases failed
      exact .inl (Status.isPlain_of_message (by decide) _)
    · cases failed

theorem subset_of_next_eq_message {a : α} {rest : Stream}
    (given : s.next reading = .ok (.message a rest)) : rest.body ⊆ s.body := by
  have stays : (s.pull reading).StaysIn s.body := pullFrom_staysIn reading s.buffer s.body
  unfold next at given
  split at given
  · cases given
  · cases given
  · next pulled =>
    split at given
    · cases given
    · cases given
      rw [pulled] at stays
      exact stays

/-- Draining fails as pulling does. The induction is on what is left, since every message uses up
part of it. -/
theorem comesOf_of_drain_eq_error {status : Status}
    (failed : s.drain α reading = .error status) : status.ComesOf s.body := by
  induction size : s.size using Nat.strongRecOn generalizing s with
  | ind n ih =>
    rw [drain_eq] at failed
    split at failed
    · next first =>
      cases failed
      exact comesOf_of_next_eq_error first
    · cases failed
    · next first =>
      have later := ih _ (size ▸ size_next_lt first) failed rfl
      exact later.mono (subset_of_next_eq_message first)

end Records

end Stream

end Courier
