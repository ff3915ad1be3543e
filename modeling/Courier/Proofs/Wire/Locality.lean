import Courier.Proofs.Wire.Spelling

/-!
# Readers look no further than they take

A reader is handed all that is left of the input, also where it should see only a part. It does no
harm: what it makes of its input depends on the bytes that it takes and not on those behind them.
`Reader.Local r` says so, by way of `Reader.Reads`: if `r` succeeds, then it takes exactly some
front of its input, whatever follows that front. Locality composes as readers do, so a reader of the
format is local by the way it is put together.

For the loop over fields this means that its result is always a `Leads` (`leads_of_fields`): the
loop that went through some bytes to its end goes through them alike in front of others, up to any
limit behind them.
-/

namespace Courier.Wire

/-! ## Readers -/

namespace Reader

variable {α β : Type}

/-- Where the reader succeeds, it takes a front of its input and would take it in front of other
bytes too. -/
structure Local (r : Reader α) : Prop where
  takes : ∀ {bs : Bytes} {a : α} {rest : Input}, r.run (.ofBytes bs) = .ok (a, rest) →
    ∃ taken, bs = taken ++ rest.bytes ∧ r.Reads taken a

theorem Local.pure (a : α) : (Pure.pure a : Reader α).Local := by
  constructor
  intro bs b rest h
  cases h
  exact ⟨[], rfl, Reads.pure a⟩

theorem Local.fail (c : Cause) : (fail c : Reader α).Local := by
  constructor
  intro bs a rest h
  cases h

theorem Local.bind {r : Reader α} {next : α → Reader β} (first : r.Local)
    (second : ∀ a, (next a).Local) : (r >>= next).Local := by
  constructor
  intro bs b rest h
  rw [run_bind] at h
  split at h
  · cases h
  · next a middle read =>
    obtain ⟨taken, rfl, reads⟩ := first.takes read
    rw [middle.eq_ofBytes] at h
    obtain ⟨taken', parts, reads'⟩ := (second a).takes h
    refine ⟨taken ++ taken', ?_, reads.bind reads'⟩
    rw [parts, List.append_assoc]

theorem Local.within {r : Reader α} (h : r.Local) (place : String) : (r.within place).Local := by
  constructor
  intro bs a rest ran
  simp only [Reader.within] at ran
  split at ran
  · cases ran
  · next out read =>
    cases ran
    obtain ⟨taken, parts, reads⟩ := h.takes read
    exact ⟨taken, parts, reads.within place⟩

theorem local_take (n : Nat) : (take n).Local := by
  constructor
  intro bs a rest h
  rw [run_take] at h
  split at h
  · next enough =>
    cases h
    refine ⟨bs.take n, (List.take_append_drop n bs).symm, ?_⟩
    have reads := reads_take (bs.take n)
    rw [List.length_take_of_le enough] at reads
    exact reads
  · cases h

theorem local_skip (n : Nat) : (skip n).Local :=
  (local_take n).bind fun _ => .pure ()

/-- What a reader takes and makes of it is determined by the bytes in front of it. -/
theorem Reads.unique {r : Reader α} {bs cs xs ys : Bytes} {a b : α} (one : r.Reads bs a)
    (other : r.Reads cs b) (same : bs ++ xs = cs ++ ys) : a = b ∧ xs = ys := by
  have both := one xs
  rw [same, other ys] at both
  simp only [Except.ok.injEq, Prod.mk.injEq, Input.ofBytes_inj] at both
  exact ⟨both.1.symm, both.2.symm⟩

theorem Reads.of_pure {a b : α} {bs : Bytes} (h : (Pure.pure a : Reader α).Reads bs b) :
    bs = [] ∧ a = b := by
  have ran := h []
  simp only [run_pure, List.append_nil, Except.ok.injEq, Prod.mk.injEq, Input.ofBytes_inj] at ran
  exact ⟨ran.2, ran.1⟩

/-- The next `n` bytes are read from themselves. -/
theorem Reads.of_take {n : Nat} {bs cs : Bytes} (h : (take n).Reads bs cs) :
    cs = bs ∧ bs.length = n := by
  have ran := h []
  rw [run_take, List.append_nil] at ran
  split at ran
  · next enough =>
    simp only [Except.ok.injEq, Prod.mk.injEq, Input.ofBytes_inj, List.drop_eq_nil_iff] at ran
    obtain ⟨rfl, most⟩ := ran
    exact ⟨List.take_of_length_le most, Nat.le_antisymm most enough⟩
  · cases ran

theorem Reads.of_within {r : Reader α} {place : String} {bs : Bytes} {a : α}
    (h : (r.within place).Reads bs a) : r.Reads bs a := by
  intro rest
  have ran := h rest
  rw [Reader.within] at ran
  dsimp only at ran
  split at ran
  · cases ran
  · next out read =>
    rw [read]
    exact ran

/-- What two readers take one after the other is what each of them takes. -/
theorem Reads.of_bind {r : Reader α} {next : α → Reader β} (first : r.Local) {bs : Bytes} {b : β}
    (h : (r >>= next).Reads bs b) :
    ∃ a taken taken', bs = taken ++ taken' ∧ r.Reads taken a ∧ (next a).Reads taken' b := by
  have ran := h []
  rw [run_bind, List.append_nil] at ran
  split at ran
  · cases ran
  · next a middle read =>
    obtain ⟨taken, rfl, reads⟩ := first.takes read
    refine ⟨a, taken, middle.bytes, rfl, reads, fun rest => ?_⟩
    have both := h rest
    rw [run_bind, List.append_assoc, reads (middle.bytes ++ rest)] at both
    exact both

/-- What is made of a result takes no bytes. -/
theorem Reads.of_map {r : Reader α} (first : r.Local) {f : α → β} {bs : Bytes} {b : β}
    (h : (r >>= fun a => Pure.pure (f a)).Reads bs b) : ∃ a, r.Reads bs a ∧ b = f a := by
  obtain ⟨a, taken, behind, rfl, reads, made⟩ := Reads.of_bind first h
  obtain ⟨rfl, rfl⟩ := made.of_pure
  rw [List.append_nil]
  exact ⟨a, reads, rfl⟩

end Reader

/-! ## Numbers and keys -/

theorem Varint.local_read : read.Local := by
  constructor
  intro bs n rest h
  obtain ⟨taken, parts, spelling⟩ := isSpelling_of_read h
  exact ⟨taken, parts, spelling.reads⟩

theorem Key.local_read : read.Local := by
  constructor
  intro bs k rest h
  obtain ⟨taken, parts, spelling⟩ := isSpelling_of_read h
  exact ⟨taken, parts, spelling.reads⟩

/-! ## The loop over fields -/

section Fields

variable {α : Type} {step : Key → α → Reader α} {limit : Nat}

/-- One turn of the loop. -/
theorem fields_turn (step : Key → α → Reader α) (limit : Nat) (a : α) (i : Input) :
    fields step limit a i =
      if limit < i.size then
        match Key.read.run i with
        | .error e => .error e
        | .ok (key, rest) =>
          match (step key a).run rest with
          | .error e => .error e
          | .ok (a', rest') => fields step limit a' rest'
      else .ok (a, i) := by
  -- `fields` keeps the equations of its steps, like `group`.
  rw [fields]
  split
  · split
    · next read => rw [read]
    · next read =>
      rw [read]
      dsimp only
      split
      · next passed => rw [passed]
      · next passed => rw [passed]
  · rfl

/-- The loop that comes to an end has worked through what it took, and would do so in front of
other bytes and up to another limit. -/
theorem leads_of_fields (reads : ∀ key a, (step key a).Local) {bs : Bytes} {a b : α}
    {rest : Input} (ended : fields step limit a (.ofBytes bs) = .ok (b, rest)) :
    rest.size ≤ limit ∧ ∃ taken, bs = taken ++ rest.bytes ∧ Leads step taken a b := by
  induction size : bs.length using Nat.strongRecOn generalizing bs a with
  | ind n ih =>
    rw [fields_turn] at ended
    split at ended
    · split at ended
      · cases ended
      · next key middle read =>
        have shorter := Key.size_lt_of_read read
        obtain ⟨name, rfl, named⟩ := Key.local_read.takes read
        split at ended
        · cases ended
        · next a' middle' taken =>
          rw [middle.eq_ofBytes] at taken
          have fewer := (step key a).size_le taken
          obtain ⟨value, parts, value'⟩ := (reads key a).takes taken
          rw [middle'.eq_ofBytes] at ended
          have less : middle'.bytes.length < n := by
            rw [← size]
            simp only [Input.size_ofBytes, middle.size_eq, middle'.size_eq] at shorter fewer
            omega
          obtain ⟨stops, others, parts', leads⟩ := ih _ less ended rfl
          refine ⟨stops, name ++ value ++ others, ?_, (Leads.field named value').append leads⟩
          rw [parts, parts', List.append_assoc, List.append_assoc]
    · next stops =>
      cases ended
      exact ⟨Nat.not_lt.mp stops, [], rfl, Leads.nil _⟩

/-- What the loop does behind bytes that it has worked through. -/
theorem Leads.cancel {bs cs : Bytes} {a b c : α} (front : Leads step bs a b)
    (whole : Leads step (bs ++ cs) a c) : Leads step cs b c := by
  intro limit rest bound
  have far : limit ≤ (cs ++ rest).length := by
    rw [List.length_append]
    omega
  rw [← front limit (cs ++ rest) far, ← List.append_assoc]
  exact whole limit rest bound

theorem Leads.eq_of_nil {a b : α} (h : Leads step [] a b) : a = b := by
  have same := h 0 [] (Nat.le_refl _)
  have used : (Input.ofBytes []).size ≤ 0 := Nat.le_refl _
  rw [List.nil_append, fields_of_le used, fields_of_le used] at same
  cases same
  rfl

/-- The loop went through nothing, or through a field and what is behind it. -/
theorem Leads.uncons (reads : ∀ key a, (step key a).Local) {bs : Bytes} {a c : α}
    (whole : Leads step bs a c) :
    (bs = [] ∧ a = c) ∨ ∃ name key value b rest, bs = name ++ value ++ rest ∧
      Key.read.Reads name key ∧ (step key a).Reads value b ∧ Leads step rest b c := by
  cases bs with
  | nil => exact .inl ⟨rfl, whole.eq_of_nil⟩
  | cons byte bs =>
    have ended := whole.fields_eq []
    have inside : ([] : Bytes).length < (Input.ofBytes (byte :: bs)).size := Nat.succ_pos _
    rw [List.append_nil, fields_turn, if_pos inside] at ended
    split at ended
    · cases ended
    · next key middle read =>
      obtain ⟨name, parts, named⟩ := Key.local_read.takes read
      rw [middle.eq_ofBytes] at ended
      split at ended
      · cases ended
      · next b middle' took =>
        obtain ⟨value, parts', value'⟩ := (reads key a).takes took
        rw [parts, parts', ← List.append_assoc] at whole ⊢
        exact .inr ⟨name, key, value, b, _, rfl, named, value',
          (Leads.field named value').cancel whole⟩

/-- Behind a key the loop went through the value of its field. -/
theorem Leads.of_named (reads : ∀ key a, (step key a).Local) {name bs : Bytes} {a c : α}
    {key : Key} (named : Key.read.Reads name key) (whole : Leads step (name ++ bs) a c) :
    ∃ value b rest, bs = value ++ rest ∧ (step key a).Reads value b ∧ Leads step rest b c := by
  obtain ⟨nothing, _⟩ | ⟨name', key', value, b, rest, parts, named', value', leads⟩ :=
    whole.uncons reads
  · exact absurd (List.append_eq_nil_iff.mp nothing).1 (Key.ne_nil_of_reads named)
  · rw [List.append_assoc] at parts
    obtain ⟨rfl, behind⟩ := named.unique named' parts
    exact ⟨value, b, rest, behind, value', leads⟩

/-- Induction over what the loop went through: nothing, or a field and what is behind it. -/
theorem Leads.induct (reads : ∀ key a, (step key a).Local) {c : α} {motive : Bytes → α → Prop}
    (nil : motive [] c)
    (cons : ∀ {name value rest : Bytes} {key : Key} {a b : α}, Key.read.Reads name key →
      (step key a).Reads value b → motive rest b → motive (name ++ value ++ rest) a)
    {bs : Bytes} {a : α} (whole : Leads step bs a c) : motive bs a := by
  induction size : bs.length using Nat.strongRecOn generalizing bs a with
  | ind n ih =>
    obtain ⟨rfl, rfl⟩ | ⟨name, key, value, b, rest, rfl, named, value', leads⟩ :=
      whole.uncons reads
    · exact nil
    · -- The key takes at least one byte, so what is behind the field is shorter.
      have taken := List.length_pos_iff.mpr (Key.ne_nil_of_reads named)
      have less : rest.length < n := by
        rw [← size, List.length_append, List.length_append]
        omega
      exact cons named value' (ih _ less leads rfl)

/-- A loop whose steps read more goes through what the other goes through. -/
theorem Leads.mono {step' : Key → α → Reader α} (reads : ∀ key a, (step key a).Local)
    (more : ∀ {key a bs b}, (step key a).Reads bs b → (step' key a).Reads bs b) {bs : Bytes}
    {a c : α} (whole : Leads step bs a c) : Leads step' bs a c := by
  refine whole.induct reads (motive := fun bs a => Leads step' bs a c) (Leads.nil c) ?_
  intro name value rest key a b named value' behind
  exact (Leads.field named (more value')).append behind

end Fields

end Courier.Wire
