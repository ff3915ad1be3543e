import Courier.Proofs.Wire.Undeclared
import Courier.Proofs.Wire.Overlay

/-!
# The fields that a message declares

All messages are read in the same way: a declared field holds a text or a nested message, and any
other field is passed over. `Kind.declared?` says which, `TextField` names the three fields that hold
a text and `NestedField` the six that hold a message, and `field_cases` is the only place that looks
at how each message reads its fields. What holds of all fields of all messages follows by recursion
on how messages nest (`Kind.induct`): fields are read locally (`local_field`), and what is read
within a nesting limit is read within a greater one (`reads_field_of_le`).
-/

namespace Courier.Wire

/-- What a declared field holds. -/
inductive Content where
  | text
  | nested (k : Kind)
  deriving DecidableEq

/-- The fields that a message declares, by their numbers. -/
def Kind.declared? : Kind → Nat → Option Content
  | .peer, 1 => some .text
  | .payload, 1 => some .text
  | .topic, 1 => some .text
  | .optionalTopic, 1 => some (.nested .topic)
  | .message, 1 => some (.nested .payload)
  | .message, 2 => some (.nested .optionalTopic)
  | .sendRequest, 1 => some (.nested .peer)
  | .sendRequest, 2 => some (.nested .message)
  | .response, 1 => some (.nested .payload)
  | _, _ => none

/-! ## Fields that hold a text -/

/-- The fields that hold a text, by the kind of their message. -/
inductive TextField : Kind → Type
  | idOfPeer : TextField .peer
  | dataOfPayload : TextField .payload
  | textOfTopic : TextField .topic

namespace TextField

variable {k : Kind}

def number : TextField k → Nat
  | idOfPeer => 1
  | dataOfPayload => 1
  | textOfTopic => 1

/-- What the field holds. -/
def get : TextField k → k.Value → String
  | idOfPeer => Peer.peerId
  | dataOfPayload => Payload.data
  | textOfTopic => Topic.topic

/-- The message with this text in the field. -/
def set : TextField k → k.Value → String → k.Value
  | idOfPeer => fun v s => ({ v with peerId := s } : Peer)
  | dataOfPayload => fun v s => ({ v with data := s } : Payload)
  | textOfTopic => fun v s => ({ v with topic := s } : Topic)

/-- The name of the field in faults. -/
def place : TextField k → String
  | idOfPeer => "Peer.peer_id"
  | dataOfPayload => "Payload.data"
  | textOfTopic => "Topic.topic"

theorem declared? (f : TextField k) : k.declared? f.number = some .text := by
  cases f <;> rfl

/-- A text field is set to the text that is read. -/
theorem field_eq (f : TextField k) (budget : Nat) (type : WireType) (v : k.Value) :
    Record.field budget ⟨f.number, type⟩ v =
      (textField type >>= fun s => pure (f.set v s)).within f.place := by
  cases f <;> rfl

end TextField

/-! ## Fields that hold a message -/

/-- The fields that hold a message, by the kinds of both. -/
inductive NestedField : Kind → Kind → Type
  | topicOfOptional : NestedField .optionalTopic .topic
  | dataOfMessage : NestedField .message .payload
  | topicOfMessage : NestedField .message .optionalTopic
  | peerOfRequest : NestedField .sendRequest .peer
  | msgOfRequest : NestedField .sendRequest .message
  | dataOfResponse : NestedField .response .payload

namespace NestedField

variable {k k' : Kind}

def number : NestedField k k' → Nat
  | topicOfOptional => 1
  | dataOfMessage => 1
  | topicOfMessage => 2
  | peerOfRequest => 1
  | msgOfRequest => 2
  | dataOfResponse => 1

/-- What the field holds, if it is set. -/
def get? : NestedField k k' → k.Value → Option k'.Value
  | topicOfOptional => OptionalTopic.topic
  | dataOfMessage => Message.data
  | topicOfMessage => Message.topic
  | peerOfRequest => SendRequest.peer
  | msgOfRequest => SendRequest.msg
  | dataOfResponse => Response.data

/-- The message with this field set and all others as they were. -/
def set : NestedField k k' → k.Value → k'.Value → k.Value
  | topicOfOptional => fun v b => ({ v with topic := some b } : OptionalTopic)
  | dataOfMessage => fun v b => ({ v with data := some b } : Message)
  | topicOfMessage => fun v b => ({ v with topic := some b } : Message)
  | peerOfRequest => fun v b => ({ v with peer := some b } : SendRequest)
  | msgOfRequest => fun v b => ({ v with msg := some b } : SendRequest)
  | dataOfResponse => fun v b => ({ v with data := some b } : Response)

/-- The name of the field in faults. -/
def place : NestedField k k' → String
  | topicOfOptional => "OptionalTopic.topic"
  | dataOfMessage => "Message.data"
  | topicOfMessage => "Message.topic"
  | peerOfRequest => "SendRequest.peer"
  | msgOfRequest => "SendRequest.msg"
  | dataOfResponse => "Response.data"

theorem declared? (f : NestedField k k') : k.declared? f.number = some (.nested k') := by
  cases f <;> rfl

theorem isFieldNumber (f : NestedField k k') : IsFieldNumber f.number := by
  cases f <;> decide

/-- A nested field is set to what is merged into the value it had. -/
theorem field_eq (f : NestedField k k') (budget : Nat) (type : WireType) (v : k.Value) :
    Record.field budget ⟨f.number, type⟩ v =
      (nestedField budget type (f.get? v) >>= fun b => pure (f.set v b)).within f.place := by
  cases f <;> rfl

/-- Messages nest to a fixed depth. -/
theorem depth_lt (f : NestedField k k') : Overlay.depth k'.Value < Overlay.depth k.Value := by
  cases f <;> decide

end NestedField

/-! ## All fields -/

/-- Messages nest in no circle: what holds of a kind if it holds of all kinds nested in it holds of
every kind. -/
theorem Kind.induct {motive : Kind → Prop}
    (step : ∀ k : Kind, (∀ {k' : Kind}, NestedField k k' → motive k') → motive k) (k : Kind) :
    motive k := by
  induction deep : Overlay.depth k.Value using Nat.strongRecOn generalizing k with
  | ind n ih => exact step k fun {k'} f => ih _ (deep ▸ f.depth_lt) k' rfl

/-- How the value of a field is read: as a text, as a message, or by passing over it. -/
theorem field_cases (k : Kind) (key : Key) :
    (∃ f : TextField k, key = ⟨f.number, key.type⟩) ∨
    (∃ (k' : Kind) (f : NestedField k k'), key = ⟨f.number, key.type⟩) ∨
    (k.declared? key.number = none ∧
      ∀ (budget : Nat) (v : k.Value), Record.field budget key v = unknownField budget key v) := by
  obtain ⟨number, type⟩ := key
  match k, number with
  | .peer, 1 => exact .inl ⟨.idOfPeer, rfl⟩
  | .payload, 1 => exact .inl ⟨.dataOfPayload, rfl⟩
  | .topic, 1 => exact .inl ⟨.textOfTopic, rfl⟩
  | .optionalTopic, 1 => exact .inr (.inl ⟨_, .topicOfOptional, rfl⟩)
  | .message, 1 => exact .inr (.inl ⟨_, .dataOfMessage, rfl⟩)
  | .message, 2 => exact .inr (.inl ⟨_, .topicOfMessage, rfl⟩)
  | .sendRequest, 1 => exact .inr (.inl ⟨_, .peerOfRequest, rfl⟩)
  | .sendRequest, 2 => exact .inr (.inl ⟨_, .msgOfRequest, rfl⟩)
  | .response, 1 => exact .inr (.inl ⟨_, .dataOfResponse, rfl⟩)
  | .peer, 0 | .payload, 0 | .topic, 0 | .optionalTopic, 0 | .message, 0 | .sendRequest, 0
  | .response, 0 => exact .inr (.inr ⟨rfl, fun _ _ => rfl⟩)
  | .peer, n + 2 | .payload, n + 2 | .topic, n + 2 | .optionalTopic, n + 2
  | .response, n + 2 => exact .inr (.inr ⟨rfl, fun _ _ => rfl⟩)
  | .message, n + 3 | .sendRequest, n + 3 => exact .inr (.inr ⟨rfl, fun _ _ => rfl⟩)

theorem field_text {k : Kind} {key : Key} (declared : k.declared? key.number = some .text) :
    ∃ f : TextField k, key = ⟨f.number, key.type⟩ := by
  obtain text | ⟨k', f, named⟩ | ⟨undeclared, _⟩ := field_cases k key
  · exact text
  · rw [named, f.declared?] at declared
    cases declared
  · rw [undeclared] at declared
    cases declared

theorem field_undeclared {k : Kind} {key : Key} (undeclared : k.declared? key.number = none)
    (budget : Nat) (v : k.Value) : Record.field budget key v = unknownField budget key v := by
  obtain ⟨f, named⟩ | ⟨k', f, named⟩ | ⟨_, reads⟩ := field_cases k key
  · rw [named, f.declared?] at undeclared
    cases undeclared
  · rw [named, f.declared?] at undeclared
    cases undeclared
  · exact reads budget v

/-- A field that is not declared is passed over, and the message stays as it is. -/
theorem reads_field_of_skippable {k : Kind} {key : Key}
    (undeclared : k.declared? key.number = none) {depth budget : Nat} {value : Bytes}
    (skippable : Skippable depth key value) (deep : depth < budget) {v : k.Value} :
    (Record.field budget key v).Reads value v := by
  rw [field_undeclared undeclared]
  exact reads_unknownField_iff.mpr ⟨skippable.reads deep, rfl⟩

/-! ## Reading them locally -/

theorem local_textField (type : WireType) : (textField type).Local := by
  unfold textField
  split
  · refine Varint.local_read.bind fun n => (Reader.local_take n).bind fun bs => ?_
    split
    · exact .pure _
    · exact .fail _
  · exact .fail _

/-- A text is read from a length and as many bytes that spell it. -/
theorem reads_textField_iff {type : WireType} {bs : Bytes} {s : String} :
    (textField type).Reads bs s ↔ type = .lengthDelimited ∧
      ∃ len, bs = len ++ utf8 s ∧ Varint.read.Reads len (utf8 s).length := by
  constructor
  · intro h
    unfold textField at h
    split at h
    · next delimits =>
      obtain ⟨n, len, behind, rfl, counted, text⟩ := Reader.Reads.of_bind Varint.local_read h
      obtain ⟨cs, taken, behind', rfl, took, made⟩ :=
        Reader.Reads.of_bind (Reader.local_take n) text
      obtain ⟨rfl, rfl⟩ := took.of_take
      split at made
      · next s' spelled =>
        obtain ⟨rfl, rfl⟩ := Reader.Reads.of_pure made
        rw [← Bytes.utf8_of_text? spelled] at counted ⊢
        exact ⟨delimits, len, by rw [List.append_nil], counted⟩
      · nomatch made []
    · nomatch h []
  · rintro ⟨rfl, len, rfl, counted⟩
    exact reads_textField counted

section Delimited

variable {α : Type} {step : Key → α → Reader α}

/-- A record that is read has its length in front, and the loop over its fields alone ends in the
same value. -/
theorem delimited_takes (reads : ∀ key a, (step key a).Local) {bs : Bytes} {a b : α}
    {rest : Input} (h : (delimited step a).run (.ofBytes bs) = .ok (b, rest)) :
    ∃ len inner, bs = len ++ inner ++ rest.bytes ∧ Varint.read.Reads len inner.length ∧
      Leads step inner a b := by
  rw [delimited, Reader.run_bind] at h
  split at h
  · cases h
  · next n middle read =>
    obtain ⟨len, rfl, counted⟩ := Varint.local_read.takes read
    rw [middle.eq_ofBytes] at h
    dsimp only at h
    split at h
    · next enough =>
      split at h
      · cases h
      · next b' rest' looped =>
        split at h
        · next stopped =>
          cases h
          obtain ⟨_, inner, parts, leads⟩ := leads_of_fields reads looped
          have whole : n = inner.length := by
            have count := congrArg List.length parts
            rw [List.length_append, ← rest.size_eq, stopped] at count
            rw [Input.size_ofBytes] at enough count
            omega
          rw [whole] at counted
          exact ⟨len, inner, by rw [parts, List.append_assoc], counted, leads⟩
        · cases h
    · cases h

theorem local_delimited (reads : ∀ key a, (step key a).Local) (a : α) :
    (delimited step a).Local := by
  constructor
  intro bs b rest h
  obtain ⟨len, inner, parts, counted, leads⟩ := delimited_takes reads h
  exact ⟨len ++ inner, parts, reads_delimited counted leads⟩

theorem local_nestedField {β : Type} [Record β]
    (reads : ∀ budget key b, (Record.field budget key (b : β)).Local) (budget : Nat)
    (type : WireType) (old : Option β) : (nestedField budget type old).Local := by
  unfold nestedField mergeNested
  split
  · cases budget with
    | zero => exact .fail _
    | succ budget => exact local_delimited (reads budget) _
  · exact .fail _

end Delimited

/-- Every field of every message is read locally. -/
theorem local_field (k : Kind) (budget : Nat) (key : Key) (v : k.Value) :
    (Record.field budget key v).Local := by
  induction k using Kind.induct generalizing budget key with
  | step k ih =>
    obtain ⟨f, named⟩ | ⟨k', f, named⟩ | ⟨_, reads⟩ := field_cases k key
    · rw [named, f.field_eq]
      exact ((local_textField _).bind fun _ => .pure _).within _
    · rw [named, f.field_eq]
      exact ((local_nestedField (fun budget key b => ih f budget key b) _ _ _).bind
        fun _ => .pure _).within _
    · rw [reads]
      exact (local_skip budget key).bind fun _ => .pure _

/-- The loop over a message ends in `w` exactly if it leads there. -/
theorem Record.merge_eq_ok_iff {k : Kind} {v w : k.Value} {bs : Bytes} :
    Record.merge v bs = .ok w ↔ Leads (Record.field depthLimit) bs v w := by
  constructor
  · intro merged
    unfold Record.merge at merged
    split at merged
    · cases merged
    · next w' rest looped =>
      cases merged
      obtain ⟨stops, taken, parts, leads⟩ := leads_of_fields (local_field k depthLimit) looped
      have nothing : rest.bytes = [] := by
        rw [← List.length_eq_zero_iff, ← rest.size_eq]
        omega
      rw [nothing, List.append_nil] at parts
      rw [parts]
      exact leads
  · intro leads
    have looped := leads.fields_eq []
    rw [List.append_nil] at looped
    rw [Record.merge, show (0 : Nat) = ([] : Bytes).length from rfl, looped]

/-! ## Texts -/

/-- A text field is read from a length and as many bytes that spell its new text. -/
theorem TextField.reads_iff {k : Kind} (f : TextField k) {budget : Nat} {type : WireType}
    {v w : k.Value} {bs : Bytes} :
    (Record.field budget ⟨f.number, type⟩ v).Reads bs w ↔
      ∃ len s, type = .lengthDelimited ∧ bs = len ++ utf8 s ∧
        Varint.read.Reads len (utf8 s).length ∧ w = f.set v s := by
  rw [f.field_eq]
  constructor
  · intro h
    obtain ⟨s, spelled, rfl⟩ := Reader.Reads.of_map (local_textField type) h.of_within
    obtain ⟨delimits, len, rfl, counted⟩ := reads_textField_iff.mp spelled
    exact ⟨len, s, delimits, rfl, counted, rfl⟩
  · rintro ⟨len, s, rfl, rfl, counted, rfl⟩
    exact ((reads_textField counted).map (f.set v)).within f.place

/-! ## Nested messages -/

namespace NestedField

variable {k k' : Kind} {budget : Nat} {v w : k.Value}

/-- A nested message is read from a length and as many bytes of fields, one level further down and
into the value that its field had. -/
theorem reads_iff (f : NestedField k k') {type : WireType} {bs : Bytes} :
    (Record.field budget ⟨f.number, type⟩ v).Reads bs w ↔
      ∃ inner len fs b, type = .lengthDelimited ∧ budget = inner + 1 ∧ bs = len ++ fs ∧
        Varint.read.Reads len fs.length ∧
        Leads (Record.field inner) fs ((f.get? v).getD Record.empty) b ∧ w = f.set v b := by
  rw [f.field_eq]
  constructor
  · intro h
    obtain ⟨b, merged, rfl⟩ :=
      Reader.Reads.of_map (local_nestedField (local_field k') _ _ _) h.of_within
    unfold nestedField mergeNested at merged
    split at merged
    · next delimits =>
      cases budget with
      | zero => nomatch merged []
      | succ inner =>
        obtain ⟨len, fs, parts, counted, leads⟩ :=
          delimited_takes (local_field k' inner) (merged [])
        simp only [Input.bytes_ofBytes, List.append_nil] at parts
        exact ⟨inner, len, fs, b, delimits, rfl, parts, counted, leads, rfl⟩
    · nomatch merged []
  · rintro ⟨inner, len, fs, b, rfl, rfl, rfl, counted, leads, rfl⟩
    exact ((reads_mergeNested counted leads).map (f.set v)).within f.place

/-- The loop goes through a nested field exactly if another loop, one level further down, goes
through the bytes that the length in front allots to the field. -/
theorem leads_iff (f : NestedField k k') {name len fs rest : Bytes}
    (named : Key.read.Reads name ⟨f.number, .lengthDelimited⟩)
    (counted : Varint.read.Reads len fs.length) :
    Leads (Record.field (budget + 1)) (name ++ (len ++ fs) ++ rest) v w ↔
      ∃ b, Leads (Record.field budget) fs ((f.get? v).getD Record.empty) b ∧
        Leads (Record.field (budget + 1)) rest (f.set v b) w := by
  constructor
  · intro whole
    rw [List.append_assoc] at whole
    obtain ⟨value, v', rest', parts, reads, leads⟩ := whole.of_named (local_field k _) named
    obtain ⟨inner, len', fs', b, _, same, rfl, counted', inside, rfl⟩ := f.reads_iff.mp reads
    cases same
    -- The same length is read in both, so the same bytes stand behind it.
    rw [List.append_assoc, List.append_assoc] at parts
    obtain ⟨long, parts⟩ := counted.unique counted' parts
    obtain ⟨rfl, rfl⟩ := List.append_inj parts long
    exact ⟨b, inside, leads⟩
  · rintro ⟨b, inside, behind⟩
    have reads := f.reads_iff.mpr ⟨budget, len, fs, b, rfl, rfl, rfl, counted, inside, rfl⟩
    exact (Leads.field named reads).append behind

end NestedField

/-- A greater budget reads the same value from the same bytes. -/
theorem reads_field_of_le (k : Kind) {budget greater : Nat} (le : budget ≤ greater) {key : Key}
    {v w : k.Value} {bs : Bytes} (h : (Record.field budget key v).Reads bs w) :
    (Record.field greater key v).Reads bs w := by
  induction k using Kind.induct generalizing budget greater key bs with
  | step k ih =>
    obtain ⟨f, named⟩ | ⟨k', f, named⟩ | ⟨_, reads⟩ := field_cases k key
    · rw [named, f.field_eq] at h ⊢
      exact h
    · rw [named] at h ⊢
      obtain ⟨inner, len, fs, b, delimits, rfl, rfl, counted, leads, rfl⟩ := f.reads_iff.mp h
      obtain ⟨inner', rfl⟩ : ∃ inner', greater = inner' + 1 := ⟨greater - 1, by omega⟩
      refine f.reads_iff.mpr ⟨inner', len, fs, b, delimits, rfl, rfl, counted, ?_, rfl⟩
      exact leads.mono (local_field k' inner) fun h => ih f (Nat.le_of_succ_le_succ le) h
    · rw [reads] at h ⊢
      obtain ⟨passed, rfl⟩ := reads_unknownField_iff.mp h
      exact reads_unknownField_iff.mpr ⟨reads_skip_of_le passed le, rfl⟩

theorem leads_of_le {k : Kind} {budget greater : Nat} (le : budget ≤ greater) {bs : Bytes}
    {v w : k.Value} (h : Leads (Record.field budget) bs v w) :
    Leads (Record.field greater) bs v w :=
  h.mono (local_field k budget) (reads_field_of_le k le)

end Courier.Wire
