import Courier.Proofs.Wire.Declared
import Courier.Proofs.Wire.RoundTrip

/-!
# Laws of overlays

An overlay works field by field: `TextField.get_overlay` and `NestedField.get?_overlay` say what it
makes of each field, and a message is nothing more than its fields (`Kind.ext`). So a law of overlays
is a law of texts and a law of nested messages, and holds of all messages by recursion on how they
nest (`Kind.induct`). `merge_lays_over` says with it what merging a written message does.
-/

namespace Courier.Wire

open Overlay (overlay)

/-! ## One field -/

theorem overlayText_assoc (r s t : String) :
    overlayText (overlayText r s) t = overlayText r (overlayText s t) := by
  unfold overlayText
  by_cases blank : t = ""
  · simp [blank]
  · simp [blank]

theorem overlayText_self (s : String) : overlayText s s = s := by
  unfold overlayText
  split
  · rfl
  · rfl

section Nested

variable {α : Type} [Record α] [Overlay α]

theorem overlayNested_assoc
    (assoc : ∀ u v w : α, overlay (overlay u v) w = overlay u (overlay v w))
    (u v w : Option α) :
    overlayNested (overlayNested u v) w = overlayNested u (overlayNested v w) := by
  cases w with
  | none => rfl
  | some w =>
    cases v with
    | none =>
      -- Over a field that is not set, `w` is laid over the empty message.
      rw [overlayNested_none]
      rfl
    | some v =>
      show some (overlay (overlay _ v) w) = some (overlay _ (overlay v w))
      rw [assoc]

theorem overlayNested_self (self : ∀ v : α, overlay v v = v) (v : Option α) :
    overlayNested v v = v := by
  cases v with
  | none => rfl
  | some v => exact congrArg some (self v)

end Nested

/-! ## All fields -/

variable {k k' : Kind}

/-- A message is nothing more than its fields. -/
theorem Kind.ext {v w : k.Value} (texts : ∀ f : TextField k, f.get v = f.get w)
    (nested : ∀ {k' : Kind} (f : NestedField k k'), f.get? v = f.get? w) : v = w := by
  cases k with
  | peer => exact congrArg Peer.mk (texts .idOfPeer)
  | payload => exact congrArg Payload.mk (texts .dataOfPayload)
  | topic => exact congrArg Topic.mk (texts .textOfTopic)
  | optionalTopic => exact congrArg OptionalTopic.mk (nested .topicOfOptional)
  | message => exact congr (congrArg Message.mk (nested .dataOfMessage)) (nested .topicOfMessage)
  | sendRequest =>
    exact congr (congrArg SendRequest.mk (nested .peerOfRequest)) (nested .msgOfRequest)
  | response => exact congrArg Response.mk (nested .dataOfResponse)

theorem TextField.get_overlay (f : TextField k) (v w : k.Value) :
    f.get (overlay v w) = overlayText (f.get v) (f.get w) := by
  cases f <;> rfl

theorem NestedField.get?_overlay (f : NestedField k k') (v w : k.Value) :
    f.get? (overlay v w) = overlayNested (f.get? v) (f.get? w) := by
  cases f <;> rfl

/-- Overlays may be made in any grouping. -/
theorem overlay_assoc (u v w : k.Value) : overlay (overlay u v) w = overlay u (overlay v w) := by
  induction k using Kind.induct with
  | step k ih =>
    apply Kind.ext
    · intro f
      simp only [f.get_overlay, overlayText_assoc]
    · intro k' f
      simp only [f.get?_overlay]
      exact overlayNested_assoc (ih f) _ _ _

/-- A message laid over itself changes nothing. -/
theorem overlay_self (v : k.Value) : overlay v v = v := by
  induction k using Kind.induct with
  | step k ih =>
    apply Kind.ext
    · intro f
      rw [f.get_overlay, overlayText_self]
    · intro k' f
      rw [f.get?_overlay]
      exact overlayNested_self (ih f) _

/-! ## Merging -/

/-- Merging what is written for `w` lays `w` over `v`: its texts as far as they are not empty, and
its nested messages, where they are set, over those of `v`. Overlays are associative, the empty
message is neutral, and merging a message into itself changes nothing. A message is merged if its
size has 64 bits, as all sizes in memory have. -/
theorem merge_lays_over (u v w : k.Value) :
    (Record.size w ≤ Varint.maxNumber →
      Record.merge v (Record.encode w) = .ok (overlay v w) ∧
      Record.merge w (Record.encode w) = .ok w) ∧
    (∀ f : TextField k, f.get (overlay v w) = if f.get w = "" then f.get v else f.get w) ∧
    (∀ {k' : Kind} (f : NestedField k k'),
      (f.get? w = none → f.get? (overlay v w) = f.get? v) ∧
      ∀ b, f.get? w = some b →
        f.get? (overlay v w) = some (overlay ((f.get? v).getD Record.empty) b)) ∧
    overlay (overlay u v) w = overlay u (overlay v w) ∧
    overlay Record.empty w = w := by
  refine ⟨?_, fun f => f.get_overlay v w, ?_, overlay_assoc u v w, Overlay.empty_overlay w⟩
  · intro small
    have deep := Nat.le_of_lt (depth_lt k)
    have itself := Record.merge_encode (v := w) deep small
    rw [overlay_self] at itself
    exact ⟨Record.merge_encode deep small, itself⟩
  · intro k' f
    rw [f.get?_overlay]
    constructor
    · intro unset
      rw [unset]
      rfl
    · intro b set
      rw [set]
      rfl

/-- A request with a peer and data, and without a topic. -/
def untaggedRequest : Kind.sendRequest.Value :=
  ({ peer := some { peerId := "p" }, msg := some { data := some { data := "x" } } } : SendRequest)

/-- A request that sets an empty peer and an empty topic, and no data. -/
def bareRequest : Kind.sendRequest.Value :=
  ({ peer := some {}, msg := some { topic := some { topic := some {} } } } : SendRequest)

/-- The peer and the data are kept, and the empty topic is set. -/
theorem bareRequest_laid_over :
    Record.size bareRequest ≤ Varint.maxNumber ∧
    Record.merge untaggedRequest (Record.encode bareRequest) =
      .ok (({ peer := some { peerId := "p" }
              msg := some
                { data := some { data := "x" }
                  topic := some { topic := some {} } } } : SendRequest) :
        Kind.sendRequest.Value) ∧
    Record.merge bareRequest (Record.encode bareRequest) = .ok bareRequest := by
  have small : Record.size bareRequest ≤ Varint.maxNumber := by decide +kernel
  have laid := merge_lays_over Record.empty untaggedRequest bareRequest
  exact ⟨small, laid.1 small⟩

end Courier.Wire
