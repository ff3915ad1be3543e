import Courier.Proofs.Wire.Declared
import Courier.Proofs.Wire.RoundTrip
import Mathlib.Tactic.Common

/-!
# Written messages are shortest

Many bytes decode to one message: numbers may be longer than they have to be, texts may be written
again, nested messages in several parts, and unknown fields between all of them. None of these bytes
are fewer than those that are written for the message. The invariant of the loop over the fields is
`size_le_of_leads`: what a field adds to the size of the message is no more than the bytes that it
takes. A nested message that is merged in parts has one length for all of them, and the length of a
sum takes no more bytes than the lengths of its parts (`Varint.width_add_le`).
-/

namespace Courier.Wire

variable {k k' : Kind}

/-! ## What a field adds -/

theorem sizeText_le (number : Nat) (s : String) :
    sizeText number s ≤
      Varint.width (8 * number + 2) + Varint.width s.utf8ByteSize + s.utf8ByteSize := by
  unfold sizeText
  split
  · exact Nat.zero_le _
  · exact Nat.le_refl _

/-- A new text takes the place of the old one. -/
theorem TextField.size_set (f : TextField k) (v : k.Value) (s : String) :
    Record.size (f.set v s) + sizeText f.number (f.get v) =
      Record.size v + sizeText f.number s := by
  cases f <;> exact Nat.add_comm _ _

/-- A new nested message takes the place of the old one. -/
theorem NestedField.size_set (f : NestedField k k') (v : k.Value) (b : k'.Value) :
    Record.size (f.set v b) + sizeNested f.number (f.get? v) =
      Record.size v + sizeNested f.number (some b) := by
  cases f with
  | topicOfOptional | dataOfResponse => exact Nat.add_comm _ _
  | dataOfMessage | peerOfRequest =>
    obtain ⟨first, second⟩ := v
    show sizeNested 1 (some b) + sizeNested 2 second + sizeNested 1 first =
      sizeNested 1 first + sizeNested 2 second + sizeNested 1 (some b)
    omega
  | topicOfMessage | msgOfRequest =>
    obtain ⟨first, second⟩ := v
    show sizeNested 1 first + sizeNested 2 (some b) + sizeNested 2 second =
      sizeNested 1 first + sizeNested 2 second + sizeNested 2 (some b)
    omega

theorem size_empty (k : Kind) : Record.size (Record.empty : k.Value) = 0 := by
  cases k <;> rfl

/-- A nested message that has grown by `n` bytes at most is written in no more than its bytes
before, those of a key, a length `n` and the `n` bytes. -/
theorem sizeNested_le (number : Nat) {n : Nat} {old : Option k.Value} {b : k.Value}
    (grown : Record.size b ≤ Record.size (old.getD Record.empty) + n) :
    sizeNested number (some b) ≤
      sizeNested number old + Varint.width (8 * number + 2) + Varint.width n + n := by
  cases old with
  | none =>
    rw [Option.getD_none, size_empty, Nat.zero_add] at grown
    have length := Varint.width_mono grown
    simp only [sizeNested]
    omega
  | some a =>
    rw [Option.getD_some] at grown
    have length := Nat.le_trans (Varint.width_mono grown) (Varint.width_add_le _ _)
    simp only [sizeNested]
    omega

/-! ## The loop over the fields -/

theorem TextField.size_le_of_reads (f : TextField k) {budget : Nat} {type : WireType}
    {name value : Bytes} {v w : k.Value} (named : Key.read.Reads name ⟨f.number, type⟩)
    (reads : (Record.field budget ⟨f.number, type⟩ v).Reads value w) :
    Record.size w ≤ Record.size v + (name.length + value.length) := by
  obtain ⟨len, s, rfl, rfl, counted, rfl⟩ := f.reads_iff.mp reads
  have key := Key.width_le_of_reads named
  have length := (Varint.reads_iff.mp counted).spells.width_le
  have size := f.size_set v s
  have text := sizeText_le f.number s
  simp only [WireType.toNat, length_utf8, List.length_append] at key length ⊢
  omega

theorem NestedField.size_le_of_reads (f : NestedField k k') {budget : Nat} {type : WireType}
    {name value : Bytes} {v w : k.Value}
    (inside : ∀ {budget : Nat} {bs : Bytes} {a b : k'.Value},
      Leads (Record.field budget) bs a b → Record.size b ≤ Record.size a + bs.length)
    (named : Key.read.Reads name ⟨f.number, type⟩)
    (reads : (Record.field budget ⟨f.number, type⟩ v).Reads value w) :
    Record.size w ≤ Record.size v + (name.length + value.length) := by
  obtain ⟨_, len, fs, b, rfl, rfl, rfl, counted, leads, rfl⟩ := f.reads_iff.mp reads
  have key := Key.width_le_of_reads named
  have length := (Varint.reads_iff.mp counted).spells.width_le
  have size := f.size_set v b
  have nested := sizeNested_le f.number (inside leads)
  simp only [WireType.toNat, List.length_append] at key ⊢
  omega

/-- A message grows by no more than the bytes that are merged into it. -/
theorem size_le_of_leads {budget : Nat} {bs : Bytes} {v w : k.Value}
    (whole : Leads (Record.field budget) bs v w) : Record.size w ≤ Record.size v + bs.length := by
  induction k using Kind.induct generalizing budget bs with
  | step k ih =>
    refine whole.induct (local_field k budget)
      (motive := fun bs v => Record.size w ≤ Record.size v + bs.length) (Nat.le_refl _) ?_
    intro name value rest key v b named reads behind
    have grown : Record.size b ≤ Record.size v + (name.length + value.length) := by
      obtain ⟨f, field⟩ | ⟨k', f, field⟩ | ⟨_, unknown⟩ := field_cases k key
      · rw [field] at named reads
        exact f.size_le_of_reads named reads
      · rw [field] at named reads
        exact f.size_le_of_reads (ih f) named reads
      · rw [unknown] at reads
        obtain ⟨_, rfl⟩ := reads_unknownField_iff.mp reads
        exact Nat.le_add_right _ _
    rw [List.length_append, List.length_append]
    omega

theorem size_le_of_decode {bs : Bytes} {v : k.Value} (decoded : Record.decode bs = .ok v) :
    Record.size v ≤ bs.length := by
  have size := size_le_of_leads (Record.merge_eq_ok_iff.mp decoded)
  rw [size_empty, Nat.zero_add] at size
  exact size

/-! ## Writing again -/

/-- The bytes that are written for what `bs` spells as a message of this kind. -/
def Kind.rewrite (k : Kind) (bs : Bytes) : Except Fault Bytes :=
  (Record.decode (α := k.Value) bs).map Record.encode

/-- The size of a message that is decoded is no more than the bytes it is decoded from. So no bytes
that decode to it are fewer than those that are written for it. These decode to it again, and writing
again changes nothing any more. Lengths have 64 bits, so bytes that are more than a memory can hold
are left out where a message has to be read back. -/
theorem written_message_is_shortest {bs : Bytes} {v : k.Value}
    (decoded : Record.decode bs = .ok v) :
    Record.size v ≤ bs.length ∧
    (∀ cs : Bytes, Record.decode cs = .ok v → (Record.encode v).length ≤ cs.length) ∧
    (bs.length ≤ Varint.maxNumber →
      Record.decode (Record.encode v) = .ok v ∧
      k.rewrite bs = .ok (Record.encode v) ∧ (k.rewrite bs >>= k.rewrite) = k.rewrite bs) := by
  have short := size_le_of_decode decoded
  refine ⟨short, ?_, ?_⟩
  · intro cs again
    rw [Overlay.length_encode]
    exact size_le_of_decode again
  · intro fits
    have back : Record.decode (Record.encode v) = .ok v :=
      Record.decode_encode (Nat.le_of_lt (depth_lt k)) (Nat.le_trans short fits)
    have written : k.rewrite bs = .ok (Record.encode v) := by
      unfold Kind.rewrite
      rw [decoded]
      rfl
    have twice : k.rewrite (Record.encode v) = .ok (Record.encode v) := by
      unfold Kind.rewrite
      rw [back]
      rfl
    refine ⟨back, written, ?_⟩
    rw [written]
    exact twice

/-- A peer in a longer spelling of its length, an unknown field, another peer, and a message in two
parts: its data, and an empty topic. -/
def lavishBytes : Bytes :=
  [10, 0x84, 0, 10, 2, 97, 98, 40, 1, 10, 3, 10, 1, 112, 18, 5, 10, 3, 10, 1, 120, 18, 2, 18, 0]

def plainSpelling : Kind.sendRequest.Value :=
  ({ peer := some { peerId := "p" }
     msg := some { data := some { data := "x" }, topic := some {} } } : SendRequest)

theorem lavishBytes_rewritten :
    Record.decode lavishBytes = .ok plainSpelling ∧ lavishBytes.length ≤ Varint.maxNumber ∧
    Record.size plainSpelling ≤ lavishBytes.length ∧
    Record.decode (Record.encode plainSpelling) = .ok plainSpelling ∧
    Kind.sendRequest.rewrite lavishBytes = .ok (Record.encode plainSpelling) := by
  have decoded : Record.decode lavishBytes = .ok plainSpelling := by decide +kernel
  have fits : lavishBytes.length ≤ Varint.maxNumber := by decide
  obtain ⟨short, _, back⟩ := written_message_is_shortest decoded
  exact ⟨decoded, fits, short, (back fits).1, (back fits).2.1⟩

end Courier.Wire
