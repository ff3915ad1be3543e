import Courier.Proofs.Wire.Declared
import Courier.Proofs.Wire.RoundTrip

/-!
# A nested message stands alone

A nested message is read from an input that goes on behind it, and only the length in front says
where it ends. `nested_message_stands_alone` states that this makes no difference: what is read is
what merging the bytes of the nested message by themselves gives, and the rest is merged as if the
field had been set to it.

By itself a message may nest more deeply than inside another, as far as the limit on nesting goes.
Only the groups of unknown fields ever come near it, so the way back asks that these be `Shallow`.
Whatever can be read at all is so up to the limit (`shallow_of_leads`).
-/

namespace Courier.Wire

/-- The fields of a message in which the groups of unknown fields, also of those in nested messages,
are nested at most `depth` deep. -/
inductive Shallow (depth : Nat) : Kind → Bytes → Prop
  | nil {k : Kind} : Shallow depth k []
  | text {k : Kind} {name value rest : Bytes} {key : Key} {s : String} :
      Key.read.Reads name key → k.declared? key.number = some .text →
      (textField key.type).Reads value s → Shallow depth k rest →
      Shallow depth k (name ++ value ++ rest)
  | nested {k k' : Kind} {name len fs rest : Bytes} (f : NestedField k k') :
      Key.read.Reads name ⟨f.number, .lengthDelimited⟩ → Varint.read.Reads len fs.length →
      Shallow depth k' fs → Shallow depth k rest →
      Shallow depth k (name ++ (len ++ fs) ++ rest)
  | undeclared {k : Kind} {name value rest : Bytes} {key : Key} :
      Key.read.Reads name key → k.declared? key.number = none → Skippable depth key value →
      Shallow depth k rest → Shallow depth k (name ++ value ++ rest)

namespace Shallow

variable {depth deeper budget greater : Nat} {k : Kind} {bs : Bytes}

theorem mono (h : Shallow depth k bs) (le : depth ≤ deeper) : Shallow deeper k bs := by
  induction h with
  | nil => exact .nil
  | text named declared spelled _ ih => exact .text named declared spelled ih
  | nested f named counted _ _ inside behind => exact .nested f named counted inside behind
  | undeclared named unknown value _ ih => exact .undeclared named unknown (value.mono le) ih

/-- What is shallow is read within any budget that leaves room for its groups and for the messages
around them. -/
theorem leads (h : Shallow depth k bs) (deep : depth + Overlay.depth k.Value < budget)
    (le : budget ≤ greater) {v w : k.Value} (whole : Leads (Record.field greater) bs v w) :
    Leads (Record.field budget) bs v w := by
  induction h generalizing budget greater with
  | nil =>
    rw [whole.eq_of_nil]
    exact Leads.nil w
  | @text _ name value _ _ s named declared spelled _ ih =>
    obtain ⟨f, field⟩ := field_text declared
    have first : ∀ b, Leads (Record.field b) (name ++ value) v (f.set v s) := by
      intro b
      refine Leads.field named ?_
      rw [field, f.field_eq]
      exact (spelled.map (f.set v)).within f.place
    exact (first budget).append (ih deep le ((first greater).cancel whole))
  | nested f named counted _ _ inside behind =>
    -- Both budgets lose one level on the way into the nested message.
    obtain ⟨budget, rfl⟩ : ∃ b, budget = b + 1 := ⟨budget - 1, by omega⟩
    obtain ⟨greater, rfl⟩ : ∃ g, greater = g + 1 := ⟨greater - 1, by omega⟩
    obtain ⟨b, first, second⟩ := (f.leads_iff named counted).mp whole
    have below := f.depth_lt
    refine (f.leads_iff named counted).mpr ⟨b, inside ?_ ?_ first, behind deep le second⟩
    · omega
    · omega
  | undeclared named unknown value _ ih =>
    have first : ∀ b, budget ≤ b → Leads (Record.field b) _ v v := fun b enough =>
      Leads.field named (reads_field_of_skippable unknown value (by omega))
    exact (first budget (Nat.le_refl _)).append (ih deep le ((first greater le).cancel whole))

end Shallow

/-- Every message that is read is shallow up to the budget. -/
theorem shallow_of_leads {k : Kind} {budget : Nat} {bs : Bytes} {v w : k.Value}
    (whole : Leads (Record.field budget) bs v w) : Shallow budget k bs := by
  induction k using Kind.induct generalizing budget bs with
  | step k ih =>
    refine whole.induct (local_field k budget) (motive := fun bs _ => Shallow budget k bs) .nil ?_
    intro name value rest key v b named reads behind
    obtain ⟨f, field⟩ | ⟨k', f, field⟩ | ⟨unknown, eq⟩ := field_cases k key
    · have declared : k.declared? key.number = some .text := by
        rw [field]
        exact f.declared?
      rw [field, f.field_eq] at reads
      obtain ⟨s, spelled, _⟩ := Reader.Reads.of_map (local_textField _) reads.of_within
      exact .text named declared spelled behind
    · rw [field] at reads named
      obtain ⟨inner, len, fs, b', delimits, rfl, rfl, counted, inside, _⟩ := f.reads_iff.mp reads
      rw [delimits] at named
      have within : Shallow inner k' fs := ih f inside
      exact .nested f named counted (within.mono (Nat.le_succ inner)) behind
    · rw [eq] at reads
      have passed := (reads_unknownField_iff.mp reads).1
      exact .undeclared named unknown (skippable_of_reads passed) behind

/-- A nested field as it is written: its key, the length of its bytes, and these. -/
def NestedField.write {k k' : Kind} (f : NestedField k k') (s : Bytes) : Bytes :=
  Key.encode ⟨f.number, .lengthDelimited⟩ ++ (Varint.encode s.length ++ s)

/-- A length that is read has 64 bits. -/
theorem NestedField.length_le_of_leads {k k' : Kind} (f : NestedField k k') {budget : Nat}
    {s rest : Bytes} {v w : k.Value}
    (whole : Leads (Record.field budget) (f.write s ++ rest) v w) :
    s.length ≤ Varint.maxNumber := by
  rw [write, List.append_assoc] at whole
  obtain ⟨value, b, rest', parts, reads, _⟩ :=
    whole.of_named (local_field k budget) f.isFieldNumber.reads
  obtain ⟨_, len, fs, _, _, _, rfl, counted, _⟩ := f.reads_iff.mp reads
  have read := counted (fs ++ rest')
  rw [← List.append_assoc, ← parts, List.append_assoc] at read
  exact Varint.le_of_read_encode read

/-- For a message `a` that decodes to `v`, and behind it a nested field with the bytes `s` and any
other bytes: what is decoded is what merging `s` alone into the field, and then the other bytes into
the whole, gives. -/
theorem nested_message_stands_alone {k k' : Kind} (f : NestedField k k') {a s rest : Bytes}
    {v : k.Value} (decoded : Record.decode a = .ok v) :
    (∀ w : k.Value, Record.decode (a ++ f.write s ++ rest) = .ok w →
      ∃ b, Record.merge ((f.get? v).getD Record.empty) s = .ok b ∧
        Record.merge (f.set v b) rest = .ok w) ∧
    (s.length ≤ Varint.maxNumber → Shallow 90 k' s → ∀ (b : k'.Value) (w : k.Value),
      Record.merge ((f.get? v).getD Record.empty) s = .ok b →
      Record.merge (f.set v b) rest = .ok w →
      Record.decode (a ++ f.write s ++ rest) = .ok w) := by
  have front := Record.merge_eq_ok_iff.mp decoded
  constructor
  · intro w whole
    have behind := front.cancel (List.append_assoc .. ▸ Record.merge_eq_ok_iff.mp whole)
    have counted := Varint.reads_encode (f.length_le_of_leads behind)
    obtain ⟨b, inside, others⟩ := (f.leads_iff f.isFieldNumber.reads counted).mp behind
    -- Alone the nested message may nest one level more.
    have alone := leads_of_le (Nat.le_succ 99) inside
    exact ⟨b, Record.merge_eq_ok_iff.mpr alone, Record.merge_eq_ok_iff.mpr others⟩
  · intro short shallow b w inside others
    have counted := Varint.reads_encode short
    have room : 90 + Overlay.depth k'.Value < 99 := by cases k' <;> decide
    have within := shallow.leads room (Nat.le_succ 99) (Record.merge_eq_ok_iff.mp inside)
    have behind := (f.leads_iff f.isFieldNumber.reads counted).mpr
      ⟨b, within, Record.merge_eq_ok_iff.mp others⟩
    refine Record.merge_eq_ok_iff.mpr ?_
    rw [List.append_assoc]
    exact front.append behind

/-- A group of number 5 with a single varint in it. -/
def smallGroup : RawField where
  name := Key.encode ⟨5, .startGroup⟩
  key := ⟨5, .startGroup⟩
  value := RawField.join [⟨Key.encode ⟨1, .varint⟩, ⟨1, .varint⟩, Varint.encode 1⟩] ++
    Key.encode ⟨5, .endGroup⟩

theorem smallGroup_skippable : Skippable 1 smallGroup.key smallGroup.value :=
  .group
    (List.forall_mem_singleton.mpr (Key.reads_encode (by decide) (by decide)))
    (List.forall_mem_singleton.mpr (.varint (Varint.reads_encode (by decide))))
    (Key.reads_encode (by decide) (by decide))

def plainMessage : Kind.message.Value := ({ data := some { data := "x" } } : Message)

def plainRequest : Kind.sendRequest.Value :=
  ({ peer := some { peerId := "p" }, msg := some plainMessage } : SendRequest)

def emptyTopic : Kind.message.Value := ({ topic := some {} } : Message)

def otherPeer : Kind.sendRequest.Value := ({ peer := some { peerId := "q" } } : SendRequest)

/-- The group, and behind it an empty topic. -/
def groupedTopic : Bytes := smallGroup.bytes ++ Record.encode emptyTopic

theorem groupedTopic_leads :
    Leads (Record.field 50) groupedTopic plainMessage
      (Overlay.overlay plainMessage emptyTopic) := by
  have named : Key.read.Reads smallGroup.name smallGroup.key :=
    Key.reads_encode (by decide) (by decide)
  have group : Leads (Record.field 50) smallGroup.bytes plainMessage plainMessage :=
    Leads.field named (reads_field_of_skippable rfl smallGroup_skippable (by decide))
  exact group.append (Overlay.leads 50 plainMessage emptyTopic (by decide) (by decide +kernel))

/-- A request whose message is set, set again with a group in it, and followed by another peer. -/
theorem groupedTopic_stands_alone :
    Record.decode (Record.encode plainRequest) = .ok plainRequest ∧
    groupedTopic.length ≤ Varint.maxNumber ∧ Shallow 90 .message groupedTopic ∧
    Record.decode (Record.encode plainRequest ++ NestedField.msgOfRequest.write groupedTopic ++
        Record.encode otherPeer) =
      .ok (({ peer := some { peerId := "q" }
              msg := some { data := some { data := "x" }, topic := some {} } } : SendRequest) :
        Kind.sendRequest.Value) := by
  have decoded : Record.decode (Record.encode plainRequest) = .ok plainRequest :=
    Record.decode_encode (by decide) (by decide +kernel)
  have short : groupedTopic.length ≤ Varint.maxNumber := by decide +kernel
  have shallow : Shallow 90 .message groupedTopic :=
    (shallow_of_leads groupedTopic_leads).mono (by decide)
  refine ⟨decoded, short, shallow, ?_⟩
  refine (nested_message_stands_alone .msgOfRequest decoded).2 short shallow
    (Overlay.overlay plainMessage emptyTopic) _ ?_ ?_
  · exact Record.merge_eq_ok_iff.mpr (leads_of_le (by decide) groupedTopic_leads)
  · exact Record.merge_encode (by decide) (by decide +kernel)

end Courier.Wire
