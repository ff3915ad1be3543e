import Courier.Proofs.Wire.Declared
import Mathlib.Tactic.Common

/-!
# Messages in parts

A message may arrive in parts that are merged one after the other, as far as none of them ends
within a field. The loop over the fields keeps nothing but the value from one field to the next, so
it makes no difference where a part ends: `Record.merge_append` says so of two parts, and
`Record.leads_mergeParts` of any number of them.
-/

namespace Courier.Wire

namespace Record

/-- Merges the parts into `a`, one after the other. The first part that cannot be merged is the
last. -/
def mergeParts {α : Type} [Record α] (a : α) (parts : List Bytes) : Except Fault α :=
  parts.foldlM merge a

variable {k : Kind} {v w : k.Value} {bs : Bytes} {parts : List Bytes}

/-- Parts that are merged begin with one that is. -/
theorem mergeParts_cons_eq_ok_iff :
    mergeParts v (bs :: parts) = .ok w ↔ ∃ b, merge v bs = .ok b ∧ mergeParts b parts = .ok w := by
  unfold mergeParts
  rw [List.foldlM_cons]
  cases merge v bs with
  | error e => simp [bind, Except.bind]
  | ok b => simp [bind, Except.bind]

/-- What is merged after one part is merged into what that part gave, also if it cannot be
merged. -/
theorem merge_append (first : merge v bs = .ok w) (rest : Bytes) :
    merge v (bs ++ rest) = merge w rest := by
  have leads := merge_eq_ok_iff.mp first
  unfold merge
  rw [leads 0 rest (Nat.zero_le _)]

/-- The loop over the fields goes through all parts as through one. -/
theorem leads_mergeParts (merged : mergeParts v parts = .ok w) :
    Leads (field depthLimit) parts.flatten v w := by
  induction parts generalizing v with
  | nil =>
    cases merged
    exact Leads.nil _
  | cons p ps ih =>
    obtain ⟨b, first, others⟩ := mergeParts_cons_eq_ok_iff.mp merged
    rw [List.flatten_cons]
    exact (merge_eq_ok_iff.mp first).append (ih others)

end Record

/-- Parts that are decoded and merged one after the other are decoded at once to the same message,
and nothing is left. If one more part cannot be merged, the whole cannot be decoded for the same
reason. -/
theorem parts_decode_as_whole {k : Kind} {parts : List Bytes} {v : k.Value}
    (merged : Record.mergeParts Record.empty parts = .ok v) :
    Record.decode parts.flatten = .ok v ∧
    fields (Record.field depthLimit) 0 Record.empty (.ofBytes parts.flatten) =
      .ok (v, .ofBytes []) ∧
    ∀ (last : Bytes) (e : Fault), Record.merge v last = .error e →
      Record.decode (α := k.Value) (parts ++ [last]).flatten = .error e := by
  have leads := Record.leads_mergeParts merged
  have whole : Record.decode parts.flatten = .ok v := Record.merge_eq_ok_iff.mpr leads
  refine ⟨whole, ?_, ?_⟩
  · have ended := leads.fields_eq []
    rw [List.append_nil] at ended
    exact ended
  · intro last e failed
    rw [List.flatten_append, List.flatten_singleton, ← failed]
    exact Record.merge_append whole last

/-- A peer; a group with a number in two bytes, and a message with data; an empty topic for that
message. -/
def scatteredParts : List Bytes :=
  [[10, 3, 10, 1, 112], [43, 8, 0x81, 0, 44, 18, 5, 10, 3, 10, 1, 120], [18, 4, 18, 2, 10, 0]]

def scatteredRequest : Kind.sendRequest.Value :=
  ({ peer := some { peerId := "p" }
     msg := some
       { data := some { data := "x" }
         topic := some { topic := some {} } } } : SendRequest)

/-- The parts give a request, and one more part that is cut off in a message spoils the whole. -/
theorem scatteredParts_decode_as_whole :
    Record.mergeParts Record.empty scatteredParts = .ok scatteredRequest ∧
    Record.decode scatteredParts.flatten = .ok scatteredRequest ∧
    Record.merge scatteredRequest [18, 5, 10] =
      .error { cause := .bufferUnderflow, path := ["SendRequest.msg"] } ∧
    Record.decode (α := Kind.sendRequest.Value) (scatteredParts ++ [[18, 5, 10]]).flatten =
      .error { cause := .bufferUnderflow, path := ["SendRequest.msg"] } := by
  have merged : Record.mergeParts Record.empty scatteredParts = .ok scatteredRequest := by
    decide +kernel
  have failed : Record.merge scatteredRequest [18, 5, 10] =
      .error { cause := .bufferUnderflow, path := ["SendRequest.msg"] } := by
    decide +kernel
  obtain ⟨whole, _, spoiled⟩ := parts_decode_as_whole merged
  exact ⟨merged, whole, failed, spoiled _ _ failed⟩

end Courier.Wire
