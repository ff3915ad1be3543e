import Courier.Wire.Schema

/-!
# What a reader takes

`Reader.Reads r bs a` says that `r` takes exactly `bs` from the front of its input and makes `a`
of them. It quantifies over what follows `bs`, so readers compose: one that reads `bs` and then
one that reads `cs` read `bs ++ cs`.

The loop over fields has no such reading of its own, because it stops at a limit and not at the
end of a field. `Leads step bs a b` says instead that the loop, once it has worked through `bs`,
goes on from `b` as if it had started there. That relation composes as well (`Leads.append`), one
field is one step of it (`Leads.field`), and a length in front turns it back into a reading
(`reads_delimited`).
-/

namespace Courier.Wire

/-! ## Readers -/

namespace Reader

variable {α β : Type}

/-- The reader takes exactly `bs`, whatever follows, and makes `a` of them. -/
def Reads (r : Reader α) (bs : Bytes) (a : α) : Prop :=
  ∀ rest : Bytes, r.run (.ofBytes (bs ++ rest)) = .ok (a, .ofBytes rest)

theorem Reads.pure (a : α) : (Pure.pure a : Reader α).Reads [] a := fun _ => rfl

/-- One reader after the other takes the bytes of both. -/
theorem Reads.bind {r : Reader α} {next : α → Reader β} {bs cs : Bytes} {a : α} {b : β}
    (first : r.Reads bs a) (second : (next a).Reads cs b) :
    (r >>= next).Reads (bs ++ cs) b := by
  intro rest
  rw [run_bind, List.append_assoc, first (cs ++ rest)]
  exact second rest

/-- What is made of the result takes no bytes. -/
theorem Reads.map {r : Reader α} {bs : Bytes} {a : α} (h : r.Reads bs a) (f : α → β) :
    (r >>= fun a => Pure.pure (f a)).Reads bs (f a) := by
  intro rest
  rw [run_bind, h rest]
  rfl

theorem Reads.within {r : Reader α} {bs : Bytes} {a : α} (h : r.Reads bs a) (place : String) :
    (r.within place).Reads bs a := by
  intro rest
  simp only [Reader.within, h rest]

theorem reads_take (bs : Bytes) : (take bs.length).Reads bs bs := by
  intro rest
  rw [run_take, if_pos (by simp), List.take_left, List.drop_left]

end Reader

/-- A number is read from its shortest varint. -/
theorem Varint.reads_encode {n : Nat} (small : n ≤ maxNumber) : read.Reads (encode n) n :=
  fun rest => read_encode small rest

theorem Varint.capacity_pos (k : Nat) : 0 < capacity k := by
  induction k with
  | zero => decide
  | succ k ih => exact Nat.mul_pos (by decide) ih

/-- A number that `k + 1` bytes cannot spell is not scanned from its shortest varint. -/
theorem Varint.scan?_encode_of_le {k n : Nat} (large : capacity k ≤ n) (rest : Bytes) :
    scan? (k + 1) (.ofBytes (encode n ++ rest)) = none := by
  induction k generalizing n with
  | zero =>
    have two : 2 ≤ n := large
    rw [encode]
    split
    · next small =>
      have byte : (UInt8.ofNat n).toNat = n := by simp; omega
      rw [List.cons_append, scan?_cons, byte, if_pos small, if_pos ⟨rfl, two⟩]
    · have byte : (UInt8.ofNat (n % 128 + 128)).toNat = n % 128 + 128 := by simp; omega
      rw [List.cons_append, scan?_cons, byte, if_neg (by omega), scan?]
  | succ k ih =>
    have byte : (UInt8.ofNat (n % 128 + 128)).toNat = n % 128 + 128 := by simp; omega
    have positive := capacity_pos k
    rw [capacity] at large
    have enough : capacity k ≤ n / 128 := by omega
    rw [encode, if_neg (by omega), List.cons_append, scan?_cons, byte, if_neg (by omega),
      ih enough]

/-- A number that is read from its shortest varint has at most 64 bits. -/
theorem Varint.le_of_read_encode {n m : Nat} {rest : Bytes} {out : Input}
    (h : read.run (.ofBytes (encode n ++ rest)) = .ok (m, out)) : n ≤ maxNumber := by
  refine Nat.le_of_not_lt fun large => ?_
  rw [run_read, scan?_encode_of_le (k := 9) large] at h
  cases h

/-! ## Keys -/

namespace Key

/-- The number that a key is written as spells that key. -/
theorem ofNat_toNat {k : Key} (named : 0 < k.number)
    (small : 8 * k.number + k.type.toNat ≤ maxNumber) :
    ofNat (8 * k.number + k.type.toNat) = pure k := by
  -- The wire type is what the low three bits hold, the number what is above them.
  have layout := k.type.toNat_lt
  have low : (8 * k.number + k.type.toNat) % 8 = k.type.toNat := by omega
  have high : (8 * k.number + k.type.toNat) / 8 = k.number := by omega
  rw [ofNat, if_neg (by omega), low, WireType.ofNat?_toNat]
  show (if _ then _ else _) = _
  rw [high, if_neg (by omega)]

theorem reads_encode {k : Key} (named : 0 < k.number)
    (small : 8 * k.number + k.type.toNat ≤ maxNumber) : read.Reads k.encode k := by
  have fits : 8 * k.number + k.type.toNat ≤ Varint.maxNumber :=
    Nat.le_trans small (by decide)
  have second : (ofNat (8 * k.number + k.type.toNat)).Reads [] k := by
    rw [ofNat_toNat named small]
    exact Reader.Reads.pure k
  have both := (Varint.reads_encode fits).bind second
  rw [List.append_nil] at both
  exact both

/-- A key is never read from nothing. -/
theorem ne_nil_of_reads {bs : Bytes} {k : Key} (h : read.Reads bs k) : bs ≠ [] := by
  rintro rfl
  exact Nat.lt_irrefl _ (size_lt_of_read (h []))

end Key

/-! ## The loop over fields -/

section Fields

variable {α : Type} {step : Key → α → Reader α} {limit : Nat}

/-- The loop stops where no more than the limit is left. -/
theorem fields_of_le {a : α} {i : Input} (h : i.size ≤ limit) :
    fields step limit a i = .ok (a, i) := by
  rw [fields, if_neg (Nat.not_lt.mpr h)]

/-- One turn of the loop: a key, its value, and on with the rest. -/
theorem fields_of_read {a b : α} {i rest rest' : Input} {key : Key} (more : limit < i.size)
    (first : Key.read.run i = .ok (key, rest)) (next : (step key a).run rest = .ok (b, rest')) :
    fields step limit a i = fields step limit b rest' := by
  rw [fields, if_pos more]
  -- The loop keeps an equation for each result, so `first` and `next` go in where it splits.
  split
  · next e failed =>
    rw [first] at failed
    cases failed
  · next key' rest₁ read =>
    rw [first] at read
    cases read
    split
    · next e failed =>
      rw [next] at failed
      cases failed
    · next b' rest₂ read' =>
      rw [next] at read'
      cases read'
      rfl

/-- Once the loop has worked through `bs`, it goes on from `b`. -/
def Leads (step : Key → α → Reader α) (bs : Bytes) (a b : α) : Prop :=
  ∀ (limit : Nat) (rest : Bytes), limit ≤ rest.length →
    fields step limit a (.ofBytes (bs ++ rest)) = fields step limit b (.ofBytes rest)

theorem Leads.nil (a : α) : Leads step [] a a := fun _ _ _ => rfl

theorem Leads.append {bs cs : Bytes} {a b c : α} (first : Leads step bs a b)
    (second : Leads step cs b c) : Leads step (bs ++ cs) a c := by
  intro limit rest bound
  have far : limit ≤ (cs ++ rest).length := by
    rw [List.length_append]
    omega
  rw [List.append_assoc, first limit (cs ++ rest) far, second limit rest bound]

/-- A key and the value of its field lead where reading the value leads. -/
theorem Leads.field {bs cs : Bytes} {a b : α} {key : Key} (named : Key.read.Reads bs key)
    (value : (step key a).Reads cs b) : Leads step (bs ++ cs) a b := by
  intro limit rest bound
  -- The loop turns once more because a key takes at least one byte above the limit.
  have taken : 0 < bs.length := List.length_pos_iff.mpr (Key.ne_nil_of_reads named)
  have more : limit < (Input.ofBytes (bs ++ cs ++ rest)).size := by
    simp only [Input.size_ofBytes, List.length_append]
    omega
  refine fields_of_read more ?_ (value rest)
  rw [List.append_assoc]
  exact named (cs ++ rest)

/-- The loop over `bs` alone ends with `b` and stops right behind `bs`. -/
theorem Leads.fields_eq {bs : Bytes} {a b : α} (h : Leads step bs a b) (rest : Bytes) :
    fields step rest.length a (.ofBytes (bs ++ rest)) = .ok (b, .ofBytes rest) := by
  rw [h rest.length rest (Nat.le_refl _)]
  exact fields_of_le (Nat.le_refl _)

/-- A length in front of fields makes a reading of them. -/
theorem reads_delimited {len bs : Bytes} {a b : α} (counted : Varint.read.Reads len bs.length)
    (h : Leads step bs a b) : (delimited step a).Reads (len ++ bs) b := by
  refine counted.bind ?_
  intro rest
  -- The limit of the inner loop is exactly what follows `bs`.
  have limit : (Input.ofBytes (bs ++ rest)).size - bs.length = rest.length := by simp
  have enough : bs.length ≤ (Input.ofBytes (bs ++ rest)).size := by simp
  show (if _ then _ else _) = _
  rw [if_pos enough, limit, h.fields_eq rest]
  show (if _ then _ else _) = _
  rw [if_pos (Input.size_ofBytes rest)]

end Fields

/-! ## Values of fields -/

/-- A text is read from its bytes with their length in front. -/
theorem reads_textField {len : Bytes} {s : String}
    (counted : Varint.read.Reads len (utf8 s).length) :
    (textField .lengthDelimited).Reads (len ++ utf8 s) s := by
  rw [textField, if_pos rfl]
  refine counted.bind ?_
  intro rest
  rw [Reader.run_bind, Reader.reads_take (utf8 s) rest]
  simp only [Bytes.text?_utf8, Reader.run_pure]

/-- A nested record is read from its fields with their length in front. -/
theorem reads_mergeNested {α : Type} [Record α] {budget : Nat} {len bs : Bytes} {a b : α}
    (counted : Varint.read.Reads len bs.length) (h : Leads (Record.field budget) bs a b) :
    (mergeNested (budget + 1) .lengthDelimited a).Reads (len ++ bs) b := by
  rw [mergeNested, if_pos rfl]
  exact reads_delimited counted h

end Courier.Wire
