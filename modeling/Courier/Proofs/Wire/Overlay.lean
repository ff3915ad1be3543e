import Courier.Proofs.Wire.Reading

/-!
# Overlays

Merging the written form of `w` into `v` gives the overlay of `w` on `v`: a text that is not empty
replaces the one before it, a nested record that is set is laid over the one before it, and what
`w` leaves out stays as it was. `Overlay` puts the overlay of a record beside its writer, together
with the two facts that every instance owes: the size is the number of bytes written
(`length_encode`), and the loop over fields leads from `v` to the overlay (`leads`).

Each instance is a list of its fields. `leads_encodeText` and `leads_encodeNested` treat one field
each, so that an instance only says where its fields are kept.
-/

namespace Courier.Wire

/-- The text of a field after a merge. The empty text is not written, so it changes nothing. -/
def overlayText (old new : String) : String := if new = "" then old else new

@[simp] theorem overlayText_empty (s : String) : overlayText "" s = s := by
  unfold overlayText
  split
  · next h => exact h.symm
  · rfl

/-- A record together with what merging its written form does to a value. -/
class Overlay (α : Type) [Record α] where
  /-- How deep records are nested in an `α`. -/
  depth : Nat
  overlay : α → α → α
  empty_overlay : ∀ w : α, overlay Record.empty w = w
  length_encode : ∀ w : α, (Record.encode w).length = Record.size w
  leads : ∀ (budget : Nat) (v w : α), depth ≤ budget → Record.size w ≤ Varint.maxNumber →
    Leads (Record.field budget) (Record.encode w) v (overlay v w)

/-- The value of a nested field after a merge. -/
def overlayNested {α : Type} [Record α] [Overlay α] (old : Option α) : Option α → Option α
  | none => old
  | some w => some (Overlay.overlay (old.getD Record.empty) w)

@[simp] theorem overlayNested_none {α : Type} [Record α] [Overlay α] (w : Option α) :
    overlayNested none w = w := by
  cases w with
  | none => rfl
  | some w => exact congrArg some (Overlay.empty_overlay w)

/-! ## Sizes -/

theorem length_utf8 (s : String) : (utf8 s).length = s.utf8ByteSize := rfl

/-- The key of a field that has a length in front takes as many bytes as `sizeText` and
`sizeNested` count for it. -/
theorem length_encode_key (number : Nat) :
    (Key.encode ⟨number, .lengthDelimited⟩).length = Varint.width (8 * number + 2) :=
  Varint.length_encode _

theorem length_encodeText (number : Nat) (s : String) :
    (encodeText number s).length = sizeText number s := by
  unfold encodeText sizeText
  split
  · rfl
  · simp only [List.length_append, length_encode_key, Varint.length_encode, length_utf8]

theorem length_encodeNested {α : Type} [Record α] [Overlay α] (number : Nat) (w : Option α) :
    (encodeNested number w).length = sizeNested number w := by
  cases w with
  | none => rfl
  | some w =>
    simp only [encodeNested, sizeNested, List.length_append, length_encode_key,
      Varint.length_encode, Overlay.length_encode]

theorem length_encodeNested_append {α β : Type} [Record α] [Overlay α] [Record β] [Overlay β]
    (number number' : Nat) (v : Option α) (w : Option β) :
    (encodeNested number v ++ encodeNested number' w).length =
      sizeNested number v + sizeNested number' w := by
  rw [List.length_append, length_encodeNested, length_encodeNested]

/-! ## One field after the other -/

section Fields

variable {α : Type} {step : Key → α → Reader α} {number : Nat} {a : α} {place : String}

/-- A key that can be written in 32 bits. -/
def IsFieldNumber (number : Nat) : Prop := 0 < number ∧ 8 * number + 2 ≤ Key.maxNumber

instance (number : Nat) : Decidable (IsFieldNumber number) :=
  inferInstanceAs (Decidable (_ ∧ _))

theorem IsFieldNumber.reads (h : IsFieldNumber number) :
    Key.read.Reads (Key.encode ⟨number, .lengthDelimited⟩) ⟨number, .lengthDelimited⟩ :=
  Key.reads_encode h.1 h.2

/-- A written text leads to the value that has it in its place; `put` puts a text there. -/
theorem leads_encodeText (put : String → α) {old s : String} (named : IsFieldNumber number)
    (kept : put old = a)
    (reads : step ⟨number, .lengthDelimited⟩ a =
      (textField .lengthDelimited >>= fun s => pure (put s)).within place)
    (fits : sizeText number s ≤ Varint.maxNumber) :
    Leads step (encodeText number s) a (put (overlayText old s)) := by
  unfold encodeText overlayText
  by_cases blank : s = ""
  · -- Nothing is written for an empty text, and nothing changes.
    rw [if_pos blank, if_pos blank, kept]
    exact Leads.nil a
  · rw [if_neg blank, if_neg blank, List.append_assoc]
    have small : (utf8 s).length ≤ Varint.maxNumber := by
      rw [sizeText, if_neg blank] at fits
      rw [length_utf8]
      omega
    refine Leads.field named.reads ?_
    rw [reads]
    exact ((reads_textField (Varint.reads_encode small)).map put).within place

/-- A written nested record leads to the value that has the overlay in its place. -/
theorem leads_encodeNested {β : Type} [Record β] [Overlay β] {budget : Nat}
    (put : Option β → α) {old w : Option β} (named : IsFieldNumber number) (kept : put old = a)
    (reads : step ⟨number, .lengthDelimited⟩ a =
      (nestedField budget .lengthDelimited old >>= fun b => pure (put (some b))).within place)
    (deep : Overlay.depth β < budget) (fits : sizeNested number w ≤ Varint.maxNumber) :
    Leads step (encodeNested number w) a (put (overlayNested old w)) := by
  cases w with
  | none =>
    rw [← kept]
    exact Leads.nil _
  | some w =>
    have small : Record.size w ≤ Varint.maxNumber := by
      rw [sizeNested] at fits
      omega
    -- Going into the record takes one level off the nesting still allowed.
    obtain ⟨inner, rfl⟩ : ∃ inner, budget = inner + 1 := ⟨budget - 1, by omega⟩
    have leads := Overlay.leads inner (old.getD Record.empty) w (by omega) small
    -- The length in front is the size counted beforehand, and so the number of bytes behind it.
    have value := reads_mergeNested (Varint.reads_encode (Overlay.length_encode w ▸ small)) leads
    rw [Overlay.length_encode] at value
    rw [encodeNested, List.append_assoc]
    refine Leads.field named.reads ?_
    rw [reads]
    exact (value.map fun b => put (some b)).within place

/-- Two nested records, one written after the other. -/
theorem leads_encodeNested_append {β γ : Type} [Record β] [Overlay β] [Record γ] [Overlay γ]
    {budget number' : Nat} {place' : String} (put : Option β → Option γ → α)
    {old w : Option β} {old' w' : Option γ}
    (named : IsFieldNumber number) (named' : IsFieldNumber number') (kept : put old old' = a)
    (reads : step ⟨number, .lengthDelimited⟩ a =
      (nestedField budget .lengthDelimited old >>= fun b =>
        pure (put (some b) old')).within place)
    (reads' : ∀ v, step ⟨number', .lengthDelimited⟩ (put v old') =
      (nestedField budget .lengthDelimited old' >>= fun c =>
        pure (put v (some c))).within place')
    (deep : Overlay.depth β < budget) (deep' : Overlay.depth γ < budget)
    (fits : sizeNested number w + sizeNested number' w' ≤ Varint.maxNumber) :
    Leads step (encodeNested number w ++ encodeNested number' w') a
      (put (overlayNested old w) (overlayNested old' w')) := by
  have first : Leads step (encodeNested number w) a (put (overlayNested old w) old') :=
    leads_encodeNested (fun v => put v old') named kept reads deep (by omega)
  have second : Leads step (encodeNested number' w') (put (overlayNested old w) old')
      (put (overlayNested old w) (overlayNested old' w')) :=
    leads_encodeNested (put (overlayNested old w)) named' rfl (reads' _) deep' (by omega)
  exact first.append second

end Fields

/-! ## The messages -/

instance : Overlay Peer where
  depth := 0
  overlay v w := { peerId := overlayText v.peerId w.peerId }
  empty_overlay w := congrArg Peer.mk (overlayText_empty w.peerId)
  length_encode w := length_encodeText 1 w.peerId
  leads _ _ _ _ fits := leads_encodeText Peer.mk (by decide) rfl rfl fits

instance : Overlay Payload where
  depth := 0
  overlay v w := { data := overlayText v.data w.data }
  empty_overlay w := congrArg Payload.mk (overlayText_empty w.data)
  length_encode w := length_encodeText 1 w.data
  leads _ _ _ _ fits := leads_encodeText Payload.mk (by decide) rfl rfl fits

instance : Overlay Topic where
  depth := 0
  overlay v w := { topic := overlayText v.topic w.topic }
  empty_overlay w := congrArg Topic.mk (overlayText_empty w.topic)
  length_encode w := length_encodeText 1 w.topic
  leads _ _ _ _ fits := leads_encodeText Topic.mk (by decide) rfl rfl fits

instance : Overlay OptionalTopic where
  depth := 1
  overlay v w := { topic := overlayNested v.topic w.topic }
  empty_overlay w := congrArg OptionalTopic.mk (overlayNested_none w.topic)
  length_encode w := length_encodeNested 1 w.topic
  leads _ _ _ deep fits :=
    leads_encodeNested OptionalTopic.mk (by decide) rfl rfl deep fits

instance : Overlay Response where
  depth := 1
  overlay v w := { data := overlayNested v.data w.data }
  empty_overlay w := congrArg Response.mk (overlayNested_none w.data)
  length_encode w := length_encodeNested 1 w.data
  leads _ _ _ deep fits := leads_encodeNested Response.mk (by decide) rfl rfl deep fits

instance : Overlay Message where
  depth := 2
  overlay v w :=
    { data := overlayNested v.data w.data
      topic := overlayNested v.topic w.topic }
  empty_overlay w := by
    show Message.mk (overlayNested none w.data) (overlayNested none w.topic) = w
    rw [overlayNested_none, overlayNested_none]
  length_encode w := length_encodeNested_append 1 2 w.data w.topic
  leads _ _ _ deep fits :=
    leads_encodeNested_append Message.mk (by decide) (by decide) rfl rfl
      (fun _ => rfl) (Nat.lt_of_lt_of_le (by decide) deep) deep fits

instance : Overlay SendRequest where
  depth := 3
  overlay v w :=
    { peer := overlayNested v.peer w.peer
      msg := overlayNested v.msg w.msg }
  empty_overlay w := by
    show SendRequest.mk (overlayNested none w.peer) (overlayNested none w.msg) = w
    rw [overlayNested_none, overlayNested_none]
  length_encode w := length_encodeNested_append 1 2 w.peer w.msg
  leads _ _ _ deep fits :=
    leads_encodeNested_append SendRequest.mk (by decide) (by decide) rfl rfl
      (fun _ => rfl) (Nat.lt_of_lt_of_le (by decide) deep) deep fits

/-! ## All of them -/

instance (k : Kind) : Overlay k.Value :=
  match k with
  | .peer => inferInstanceAs (Overlay Peer)
  | .payload => inferInstanceAs (Overlay Payload)
  | .topic => inferInstanceAs (Overlay Topic)
  | .optionalTopic => inferInstanceAs (Overlay OptionalTopic)
  | .message => inferInstanceAs (Overlay Message)
  | .sendRequest => inferInstanceAs (Overlay SendRequest)
  | .response => inferInstanceAs (Overlay Response)

/-- No message comes near the limit on nesting. -/
theorem depth_lt (k : Kind) : Overlay.depth k.Value < depthLimit := by
  cases k <;> decide

end Courier.Wire
