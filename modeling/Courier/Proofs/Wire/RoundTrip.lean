import Courier.Proofs.Wire.Overlay

/-!
# What is written is read back

For each of the seven messages: the size is the number of bytes written, reading the bytes gives
the value again and leaves nothing, and with its length in front the value is read back whatever
follows. The loop over fields leads from the empty value to its overlay with the value written,
which is that value.
-/

namespace Courier.Wire

namespace Record

variable {α : Type} [Record α] [Overlay α]

/-- Merging a written record lays it over the old one and leaves no byte. -/
theorem fields_encode {v w : α} (deep : Overlay.depth α ≤ depthLimit)
    (small : size w ≤ Varint.maxNumber) :
    fields (field depthLimit) 0 v (.ofBytes (encode w)) =
      .ok (Overlay.overlay v w, .ofBytes []) := by
  have whole := (Overlay.leads depthLimit v w deep small).fields_eq []
  rw [List.append_nil] at whole
  exact whole

theorem merge_encode {v w : α} (deep : Overlay.depth α ≤ depthLimit)
    (small : size w ≤ Varint.maxNumber) :
    merge v (encode w) = .ok (Overlay.overlay v w) := by
  rw [merge, fields_encode deep small]

/-- A written record is decoded again. -/
theorem decode_encode {w : α} (deep : Overlay.depth α ≤ depthLimit)
    (small : size w ≤ Varint.maxNumber) : decode (encode w) = .ok w := by
  rw [decode, merge_encode deep small, Overlay.empty_overlay]

/-- With its length in front, a written record is read off whatever follows. -/
theorem decodeDelimited_encodeDelimited {w : α} (deep : Overlay.depth α < depthLimit)
    (small : size w ≤ Varint.maxNumber) (rest : Bytes) :
    decodeDelimited (encodeDelimited w ++ rest) = .ok (w, rest) := by
  have short : (encode w).length ≤ Varint.maxNumber := by
    rw [Overlay.length_encode]
    exact small
  -- The length in front takes one level of nesting.
  have leads : Leads (field 99) (encode w) empty w := by
    have laid := Overlay.leads 99 empty w (Nat.le_of_lt_succ deep) small
    rw [Overlay.empty_overlay] at laid
    exact laid
  have reads := reads_mergeNested (Varint.reads_encode short) leads rest
  rw [Overlay.length_encode] at reads
  show (Except.map _ ((mergeNested (99 + 1) .lengthDelimited empty).run
    (.ofBytes (Varint.encode (size w) ++ encode w ++ rest)))) = _
  rw [reads]
  rfl

end Record

/-- Every message is read back from its bytes, on its own and in front of others, and its size
is their number. -/
theorem encoded_message_reads_back (k : Kind) (v : k.Value)
    (small : Record.size v < 0x8000000000000000) :
    (Record.encode v).length = Record.size v ∧
    Record.decode (Record.encode v) = .ok v ∧
    fields (Record.field depthLimit) 0 Record.empty (.ofBytes (Record.encode v)) =
      .ok (v, .ofBytes []) ∧
    ∀ rest, Record.decodeDelimited (Record.encodeDelimited v ++ rest) = .ok (v, rest) := by
  have deep := depth_lt k
  have fits : Record.size v ≤ Varint.maxNumber :=
    Nat.le_of_lt (Nat.lt_trans small (by decide))
  refine ⟨Overlay.length_encode v, Record.decode_encode (Nat.le_of_lt deep) fits, ?_,
    Record.decodeDelimited_encodeDelimited deep fits⟩
  have whole := Record.fields_encode (v := Record.empty) (Nat.le_of_lt deep) fits
  rw [Overlay.empty_overlay] at whole
  exact whole

/-- A request with an empty peer, a text beyond ASCII and an empty topic. -/
def unusualRequest : Kind.sendRequest.Value :=
  ({ peer := some {}
     msg := some
       { data := some { data := "größe\u0000" }
         topic := some { topic := some {} } } } : SendRequest)

theorem unusualRequest_reads_back :
    Record.size unusualRequest < 0x8000000000000000 ∧
    (Record.encode unusualRequest).length = Record.size unusualRequest ∧
    Record.decode (Record.encode unusualRequest) = .ok unusualRequest ∧
    fields (Record.field depthLimit) 0 Record.empty (.ofBytes (Record.encode unusualRequest)) =
      .ok (unusualRequest, .ofBytes []) ∧
    ∀ rest, Record.decodeDelimited (Record.encodeDelimited unusualRequest ++ rest) =
      .ok (unusualRequest, rest) := by
  have small : Record.size unusualRequest < 0x8000000000000000 := by decide +kernel
  exact ⟨small, encoded_message_reads_back .sendRequest unusualRequest small⟩

end Courier.Wire
