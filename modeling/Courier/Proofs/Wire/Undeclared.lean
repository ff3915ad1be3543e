import Courier.Proofs.Wire.Locality

/-!
# What is passed over

`Skippable depth key value` is the grammar of the values that an unknown field may have: what the
layout in its key asks for, with groups nested at most `depth` deep. Every such value is passed
over with a greater budget (`Skippable.reads`), and nothing else ever is (`skippable_of_reads`).
Hence what one budget passes over, every greater one passes over alike (`reads_skip_of_le`).

The loop over a group is taken apart once, in `group_takes`, into the fields that it passes over and
the key that ends it.
-/

namespace Courier.Wire

/-- A field as it is written: the bytes of its key, the key that they spell, and the bytes of its
value. -/
structure RawField where
  name : Bytes
  key : Key
  value : Bytes

def RawField.bytes (u : RawField) : Bytes := u.name ++ u.value

/-- Fields one after the other. -/
def RawField.join (us : List RawField) : Bytes := us.flatMap bytes

theorem RawField.join_cons (u : RawField) (us : List RawField) :
    join (u :: us) = u.name ++ u.value ++ join us := List.flatMap_cons

/-- The value of an unknown field, in which groups are nested at most `depth` deep. Numbers may be
written in any width that a varint may have. -/
inductive Skippable : (depth : Nat) → Key → Bytes → Prop
  | varint {depth number n : Nat} {value : Bytes} :
      Varint.read.Reads value n → Skippable depth ⟨number, .varint⟩ value
  | sixtyFourBit {depth number : Nat} {value : Bytes} :
      value.length = 8 → Skippable depth ⟨number, .sixtyFourBit⟩ value
  | lengthDelimited {depth number : Nat} {len value : Bytes} :
      Varint.read.Reads len value.length → Skippable depth ⟨number, .lengthDelimited⟩ (len ++ value)
  | group {depth number : Nat} {members : List RawField} {last : Bytes} :
      (∀ u ∈ members, Key.read.Reads u.name u.key) →
      (∀ u ∈ members, Skippable depth u.key u.value) →
      Key.read.Reads last ⟨number, .endGroup⟩ →
      Skippable (depth + 1) ⟨number, .startGroup⟩ (RawField.join members ++ last)
  | thirtyTwoBit {depth number : Nat} {value : Bytes} :
      value.length = 4 → Skippable depth ⟨number, .thirtyTwoBit⟩ value

namespace Skippable

variable {depth deeper : Nat} {key : Key} {value : Bytes}

theorem mono (h : Skippable depth key value) (le : depth ≤ deeper) :
    Skippable deeper key value := by
  induction h generalizing deeper with
  | varint spelled => exact .varint spelled
  | sixtyFourBit long => exact .sixtyFourBit long
  | lengthDelimited counted => exact .lengthDelimited counted
  | group named _ last ih =>
    obtain ⟨d, rfl⟩ : ∃ d, deeper = d + 1 := ⟨deeper - 1, by omega⟩
    exact .group named (fun u member => ih u member (Nat.le_of_succ_le_succ le)) last
  | thirtyTwoBit long => exact .thirtyTwoBit long

theorem ne_endGroup (h : Skippable depth key value) : key.type ≠ .endGroup := by
  cases h <;> nofun

end Skippable

/-! ## The loop over a group -/

section Groups

variable {inner : Key → Reader Unit} {number : Nat}

/-- One turn of the loop. -/
theorem group_turn (inner : Key → Reader Unit) (number : Nat) (i : Input) :
    group inner number i =
      match Key.read.run i with
      | .error e => .error e
      | .ok (key, rest) =>
        if key.type = .endGroup then
          if key.number = number then .ok ((), rest) else .error { cause := .unexpectedEndGroup }
        else
          match (inner key).run rest with
          | .error e => .error e
          | .ok (_, rest') => group inner number rest' := by
  -- `group` keeps the equations of its steps, so that it terminates: they cannot be rewritten.
  rw [group]
  split
  · next read => rw [read]
  · next read =>
    rw [read]
    dsimp only
    split
    · rfl
    · split
      · next passed => rw [passed]
      · next passed => rw [passed]

/-- A member of a group: its key is read, does not end the group, and `inner` passes over its
value. -/
structure IsMember (inner : Key → Reader Unit) (u : RawField) : Prop where
  named : Key.read.Reads u.name u.key
  inside : u.key.type ≠ .endGroup
  passed : (inner u.key).Reads u.value ()

/-- Members and the key that ends the group are passed over. -/
theorem reads_group {members : List RawField} {last : Bytes}
    (each : ∀ u ∈ members, IsMember inner u) (ends : Key.read.Reads last ⟨number, .endGroup⟩) :
    (groupReader inner number).Reads (RawField.join members ++ last) () := by
  intro more
  show group inner number _ = _
  induction members with
  | nil =>
    rw [group_turn, RawField.join, List.flatMap_nil, List.nil_append, ends more]
    simp only [if_true]
  | cons u us ih =>
    obtain ⟨named, inside, passed⟩ := each u List.mem_cons_self
    have parts : RawField.join (u :: us) ++ last ++ more =
        u.name ++ (u.value ++ (RawField.join us ++ last ++ more)) := by
      rw [RawField.join_cons]
      simp only [List.append_assoc]
    rw [parts, group_turn, named]
    simp only [if_neg inside, passed (RawField.join us ++ last ++ more)]
    exact ih fun u' member => each u' (List.mem_cons_of_mem u member)

/-- A group that is passed over consists of its members and the key that ends it. -/
theorem group_takes (passes : ∀ key, (inner key).Local) {bs : Bytes} {rest : Input}
    (h : group inner number (.ofBytes bs) = .ok ((), rest)) :
    ∃ members last, bs = RawField.join members ++ last ++ rest.bytes ∧
      (∀ u ∈ members, IsMember inner u) ∧ Key.read.Reads last ⟨number, .endGroup⟩ := by
  induction size : bs.length using Nat.strongRecOn generalizing bs with
  | ind n ih =>
    rw [group_turn] at h
    split at h
    · cases h
    · next key middle read =>
      have shorter := Key.size_lt_of_read read
      obtain ⟨name, rfl, named⟩ := Key.local_read.takes read
      split at h
      · next last =>
        split at h
        · next same =>
          cases h
          obtain ⟨_, _⟩ := key
          cases last
          cases same
          exact ⟨[], name, rfl, nofun, named⟩
        · cases h
      · next inside =>
        split at h
        · cases h
        · next u' middle' passed =>
          rw [middle.eq_ofBytes] at passed
          have fewer := (inner key).size_le passed
          obtain ⟨value, parts, passes'⟩ := (passes key).takes passed
          rw [middle'.eq_ofBytes] at h
          have less : middle'.bytes.length < n := by
            rw [← size]
            simp only [Input.size_ofBytes, middle.size_eq, middle'.size_eq] at shorter fewer
            omega
          obtain ⟨members, last, parts', each, ends⟩ := ih _ less h rfl
          refine ⟨⟨name, key, value⟩ :: members, last, ?_, ?_, ends⟩
          · rw [RawField.join_cons, parts, parts']
            simp only [List.append_assoc]
          · exact List.forall_mem_cons.mpr ⟨⟨named, inside, passes'⟩, each⟩

theorem local_group (passes : ∀ key, (inner key).Local) : (groupReader inner number).Local := by
  constructor
  intro bs _ rest h
  obtain ⟨members, last, parts, each, ends⟩ := group_takes passes h
  exact ⟨_, parts, reads_group each ends⟩

end Groups

/-! ## Passing over a field -/

theorem local_skip (budget : Nat) (key : Key) : (skip budget key).Local := by
  induction budget generalizing key with
  | zero => exact .fail _
  | succ budget ih =>
    unfold skip
    split
    · exact Varint.local_read.bind fun _ => .pure ()
    · exact Reader.local_skip 8
    · exact Varint.local_read.bind Reader.local_skip
    · exact local_group ih
    · exact .fail _
    · exact Reader.local_skip 4

theorem Reader.reads_skip (bs : Bytes) : (Reader.skip bs.length).Reads bs () :=
  (reads_take bs).map fun _ => ()

theorem Skippable.reads {depth budget : Nat} {key : Key} {value : Bytes}
    (h : Skippable depth key value) (deep : depth < budget) :
    (skip budget key).Reads value () := by
  induction h generalizing budget with
  | varint spelled =>
    obtain ⟨b, rfl⟩ : ∃ b, budget = b + 1 := ⟨budget - 1, by omega⟩
    exact spelled.map fun _ => ()
  | sixtyFourBit long | thirtyTwoBit long =>
    obtain ⟨b, rfl⟩ : ∃ b, budget = b + 1 := ⟨budget - 1, by omega⟩
    have reads := Reader.reads_skip ‹Bytes›
    rw [long] at reads
    exact reads
  | lengthDelimited counted =>
    obtain ⟨b, rfl⟩ : ∃ b, budget = b + 1 := ⟨budget - 1, by omega⟩
    exact counted.bind (Reader.reads_skip _)
  | group named each last ih =>
    -- Going into the group takes one level off what is still allowed.
    obtain ⟨b, rfl⟩ : ∃ b, budget = b + 1 := ⟨budget - 1, by omega⟩
    refine reads_group (fun u member => ?_) last
    exact ⟨named u member, (each u member).ne_endGroup,
      ih u member (Nat.lt_of_succ_lt_succ deep)⟩

theorem Reader.length_of_reads_skip {n : Nat} {bs : Bytes} (h : (Reader.skip n).Reads bs ()) :
    bs.length = n := by
  obtain ⟨taken, took, _⟩ := Reads.of_map (local_take n) h
  exact took.of_take.2

/-- What is passed over is the value that the key asks for. -/
theorem skippable_of_reads {budget : Nat} {key : Key} {value : Bytes}
    (h : (skip budget key).Reads value ()) : Skippable budget key value := by
  induction budget generalizing key value with
  | zero => nomatch h []
  | succ budget ih =>
    obtain ⟨number, type⟩ := key
    cases type with
    | varint =>
      obtain ⟨n, spelled, _⟩ := Reader.Reads.of_map Varint.local_read h
      exact .varint spelled
    | sixtyFourBit => exact .sixtyFourBit (Reader.length_of_reads_skip h)
    | lengthDelimited =>
      obtain ⟨n, len, behind, rfl, counted, passed⟩ := Reader.Reads.of_bind Varint.local_read h
      rw [← Reader.length_of_reads_skip passed] at counted
      exact .lengthDelimited counted
    | startGroup =>
      obtain ⟨members, last, parts, each, ends⟩ := group_takes (local_skip budget) (h [])
      simp only [Input.bytes_ofBytes, List.append_nil] at parts
      rw [parts]
      exact .group (fun u member => (each u member).named)
        (fun u member => ih (each u member).passed) ends
    | endGroup => nomatch h []
    | thirtyTwoBit => exact .thirtyTwoBit (Reader.length_of_reads_skip h)

/-- A greater budget passes over the same bytes. -/
theorem reads_skip_of_le {budget greater : Nat} {key : Key} {value : Bytes}
    (h : (skip budget key).Reads value ()) (le : budget ≤ greater) :
    (skip greater key).Reads value () := by
  obtain rfl | less := Nat.eq_or_lt_of_le le
  · exact h
  · exact (skippable_of_reads h).reads less

/-- An unknown field is passed over, and changes nothing. -/
theorem reads_unknownField_iff {α : Type} {budget : Nat} {key : Key} {a b : α} {value : Bytes} :
    (unknownField budget key a).Reads value b ↔ (skip budget key).Reads value () ∧ b = a := by
  constructor
  · intro h
    obtain ⟨_, passed, same⟩ := Reader.Reads.of_map (local_skip budget key) h
    exact ⟨passed, same⟩
  · rintro ⟨passed, rfl⟩
    exact passed.map fun _ => b

end Courier.Wire
