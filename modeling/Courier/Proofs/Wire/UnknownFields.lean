import Courier.Proofs.Wire.Parts
import Courier.Proofs.Wire.RoundTrip

/-!
# Unknown fields are ignored

`WellFormed depth u` is the grammar of a field, without a word on readers: its key and its numbers in
any of their spellings, its value laid out as the key says, and groups with fields of any number in
them, nested at most `depth` deep. What it derives is `Skippable`, so a message that does not declare
the field goes on behind it as if it were not there (`leads_unknown`).
-/

namespace Courier.Wire

/-- A field as it may be written, in which groups are nested at most `depth` deep. -/
inductive WellFormed : (depth : Nat) → RawField → Prop
  | varint {depth number n : Nat} {name value : Bytes} :
      Key.IsSpelling name ⟨number, .varint⟩ → Varint.IsSpelling value n →
      WellFormed depth ⟨name, ⟨number, .varint⟩, value⟩
  | sixtyFourBit {depth number : Nat} {name value : Bytes} :
      Key.IsSpelling name ⟨number, .sixtyFourBit⟩ → value.length = 8 →
      WellFormed depth ⟨name, ⟨number, .sixtyFourBit⟩, value⟩
  | lengthDelimited {depth number : Nat} {name len value : Bytes} :
      Key.IsSpelling name ⟨number, .lengthDelimited⟩ → Varint.IsSpelling len value.length →
      WellFormed depth ⟨name, ⟨number, .lengthDelimited⟩, len ++ value⟩
  | group {depth number : Nat} {name last : Bytes} {members : List RawField} :
      Key.IsSpelling name ⟨number, .startGroup⟩ → (∀ u ∈ members, WellFormed depth u) →
      Key.IsSpelling last ⟨number, .endGroup⟩ →
      WellFormed (depth + 1) ⟨name, ⟨number, .startGroup⟩, RawField.join members ++ last⟩
  | thirtyTwoBit {depth number : Nat} {name value : Bytes} :
      Key.IsSpelling name ⟨number, .thirtyTwoBit⟩ → value.length = 4 →
      WellFormed depth ⟨name, ⟨number, .thirtyTwoBit⟩, value⟩

namespace WellFormed

variable {depth : Nat} {u : RawField}

theorem named (h : WellFormed depth u) : Key.IsSpelling u.name u.key := by
  cases h <;> assumption

theorem skippable (h : WellFormed depth u) : Skippable depth u.key u.value := by
  induction h with
  | varint _ spelled => exact .varint spelled.reads
  | sixtyFourBit _ long => exact .sixtyFourBit long
  | lengthDelimited _ counted => exact .lengthDelimited counted.reads
  | group _ members last ih =>
    exact .group (fun u member => (members u member).named.reads) ih last.reads
  | thirtyTwoBit _ long => exact .thirtyTwoBit long

end WellFormed

/-- A message goes on behind an unknown field with the value that it had in front of it. -/
theorem leads_unknown {k : Kind} {depth budget : Nat} {u : RawField}
    (formed : WellFormed depth u) (deep : depth < budget)
    (undeclared : k.declared? u.key.number = none) (v : k.Value) :
    Leads (Record.field budget) u.bytes v v :=
  Leads.field formed.named.reads (reads_field_of_skippable undeclared formed.skippable deep)

/-- Behind bytes that are decoded, a field that is not declared makes no difference to what becomes
of the whole, whatever stands behind it. Its groups may be nested less deeply than messages may. -/
theorem unknown_field_is_ignored {k : Kind} {depth : Nat} {a : Bytes} {u : RawField} {v : k.Value}
    (decoded : Record.decode a = .ok v) (formed : WellFormed depth u) (deep : depth < depthLimit)
    (undeclared : k.declared? u.key.number = none) (b : Bytes) :
    Record.decode (α := k.Value) (a ++ u.bytes ++ b) = Record.decode (a ++ b) := by
  have front := Record.merge_eq_ok_iff.mp decoded
  have unchanged : Record.decode (a ++ u.bytes) = .ok v :=
    Record.merge_eq_ok_iff.mpr (front.append (leads_unknown formed deep undeclared v))
  calc Record.decode (a ++ u.bytes ++ b)
      = Record.merge v b := Record.merge_append unchanged b
    _ = Record.decode (a ++ b) := (Record.merge_append decoded b).symm

/-- A group of number 5. In it stand a number in three bytes, behind a key in two, and an empty
group. -/
def nestedGroup : RawField where
  name := Key.encode ⟨5, .startGroup⟩
  key := ⟨5, .startGroup⟩
  value := RawField.join
      [⟨[0x88, 0], ⟨1, .varint⟩, [0x81, 0x80, 0]⟩,
        ⟨Key.encode ⟨1, .startGroup⟩, ⟨1, .startGroup⟩, Key.encode ⟨1, .endGroup⟩⟩] ++
    Key.encode ⟨5, .endGroup⟩

theorem nestedGroup_wellFormed : WellFormed 2 nestedGroup := by
  have number : WellFormed 1 ⟨[0x88, 0], ⟨1, .varint⟩, [0x81, 0x80, 0]⟩ := by
    have name : Varint.Spells [0x88, 0] 8 := .more (by decide) (.last (by decide))
    have value : Varint.Spells [0x81, 0x80, 0] 1 :=
      .more (by decide) (.more (by decide) (.last (by decide)))
    exact .varint ⟨⟨name, by decide, by decide⟩, by decide, by decide⟩
      ⟨value, by decide, by decide⟩
  have empty : WellFormed 1
      ⟨Key.encode ⟨1, .startGroup⟩, ⟨1, .startGroup⟩, Key.encode ⟨1, .endGroup⟩⟩ := by
    have members : ∀ u ∈ ([] : List RawField), WellFormed 0 u := nofun
    exact .group (Key.isSpelling_encode (by decide) (by decide)) members
      (Key.isSpelling_encode (by decide) (by decide))
  refine .group (Key.isSpelling_encode (by decide) (by decide)) ?_
    (Key.isSpelling_encode (by decide) (by decide))
  intro u member
  rcases List.mem_cons.mp member with rfl | member
  · exact number
  · rw [List.mem_singleton.mp member]
    exact empty

/-- The group between a request and a peer that is cut off. -/
theorem nestedGroup_is_ignored :
    Record.decode (Record.encode unusualRequest) = .ok unusualRequest ∧
    WellFormed 2 nestedGroup ∧ Kind.sendRequest.declared? nestedGroup.key.number = none ∧
    Record.decode (α := Kind.sendRequest.Value)
        (Record.encode unusualRequest ++ nestedGroup.bytes ++ [10, 3, 10]) =
      Record.decode (Record.encode unusualRequest ++ [10, 3, 10]) := by
  have decoded : Record.decode (Record.encode unusualRequest) = .ok unusualRequest :=
    Record.decode_encode (by decide) (by decide +kernel)
  exact ⟨decoded, nestedGroup_wellFormed, rfl,
    unknown_field_is_ignored decoded nestedGroup_wellFormed (by decide) rfl [10, 3, 10]⟩

end Courier.Wire
