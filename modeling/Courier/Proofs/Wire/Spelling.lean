import Courier.Proofs.Wire.Reading

/-!
# The spellings of numbers and keys

A number has one shortest varint and many longer ones, which end in bytes without any bits.
`Varint.Spells` tells all of them without a reader, and `Varint.IsSpelling` those that a reader has
to accept: at most ten bytes, and a number of 64 bits. `Varint.reads_iff` says that exactly these are
read, `Key.reads_iff` the same of keys, and `Varint.Spells.width_le` that no spelling is shorter than
the shortest varint.
-/

namespace Courier.Wire

namespace Varint

/-- The bytes spell the number, seven bits a byte: the last byte has a clear high bit, every other
one a set high bit. -/
inductive Spells : Bytes → Nat → Prop
  | last {b : UInt8} : b.toNat < 128 → Spells [b] b.toNat
  | more {b : UInt8} {bs : Bytes} {n : Nat} : 128 ≤ b.toNat → Spells bs n →
      Spells (b :: bs) (b.toNat - 128 + 128 * n)

/-- A spelling of a number of 64 bits in at most ten bytes. -/
structure IsSpelling (bs : Bytes) (n : Nat) : Prop where
  spells : Spells bs n
  short : bs.length ≤ 10
  small : n ≤ maxNumber

/-! ## Width -/

theorem width_pos (n : Nat) : 0 < width n := by
  rw [width]
  split <;> omega

theorem width_mono {m n : Nat} (le : m ≤ n) : width m ≤ width n := by
  induction n using Nat.strongRecOn generalizing m with
  | ind n ih =>
    rw [width, width.eq_1 n]
    by_cases small : m < 128
    · rw [if_pos small]
      split <;> omega
    · have smaller := ih (n / 128) (by omega) (Nat.div_le_div_right (c := 128) le)
      rw [if_neg small, if_neg (by omega)]
      omega

/-- One byte more makes room for a number that is 128 times as great. -/
theorem width_mul_le (n : Nat) : width (128 * n) ≤ 1 + width n := by
  have quotient : 128 * n / 128 = n := Nat.mul_div_cancel_left n (by decide)
  rw [width]
  split
  · omega
  · simp only [quotient, Nat.le_refl]

/-- Two numbers take no less than their sum. -/
theorem width_add_le (m n : Nat) : width (m + n) ≤ width m + width n := by
  have one := width_pos m
  have other := width_pos n
  rcases Nat.le_total m n with le | le
  · have sum := width_mono (show m + n ≤ 128 * n by omega)
    have greater := width_mul_le n
    omega
  · have sum := width_mono (show m + n ≤ 128 * m by omega)
    have greater := width_mul_le m
    omega

/-- No spelling is shorter than the shortest varint. -/
theorem Spells.width_le {bs : Bytes} {n : Nat} (h : Spells bs n) : width n ≤ bs.length := by
  induction h with
  | @last b small =>
    have one : width b.toNat = 1 := by rw [width, if_pos small]
    exact Nat.le_of_eq one
  | @more b bs n large _ ih =>
    rw [width, List.length_cons]
    split
    · omega
    · have byte := b.toNat_lt
      rw [show (b.toNat - 128 + 128 * n) / 128 = n by omega]
      omega

/-! ## Reading -/

/-- A spelling is scanned, whatever follows, if the bytes allowed are enough for it and for its
number. -/
theorem Spells.scan?_eq {bs : Bytes} {n : Nat} (h : Spells bs n) {k : Nat}
    (short : bs.length ≤ k + 1) (small : n < capacity k) (rest : Bytes) :
    scan? (k + 1) (.ofBytes (bs ++ rest)) = some (n, .ofBytes rest) := by
  induction h generalizing k with
  | @last b low =>
    -- A last byte of 2 or more is refused only where it has to complete 64 bits.
    have fits : ¬(k = 0 ∧ 2 ≤ b.toNat) := by
      rintro ⟨rfl, large⟩
      exact Nat.not_lt.mpr large small
    rw [List.singleton_append, scan?_cons, if_pos low, if_neg fits]
  | @more b bs n high tail ih =>
    cases k with
    | zero =>
      have taken := tail.width_le
      have some := width_pos n
      rw [List.length_cons] at short
      omega
    | succ k =>
      rw [List.length_cons] at short
      rw [capacity] at small
      have found := ih (k := k) (by omega) (by omega)
      rw [List.cons_append, scan?_cons, if_neg (Nat.not_lt.mpr high), found]

/-- What is scanned is a spelling in the bytes allowed. -/
theorem spells_of_scan? {k n : Nat} {bs : Bytes} {rest : Input}
    (found : scan? (k + 1) (.ofBytes bs) = some (n, rest)) :
    ∃ taken, bs = taken ++ rest.bytes ∧ Spells taken n ∧ taken.length ≤ k + 1 ∧
      n < capacity k := by
  induction k generalizing bs n rest with
  | zero =>
    cases bs with
    | nil => cases found
    | cons b bs =>
      rw [scan?_cons] at found
      split at found
      · next low =>
        split at found
        · cases found
        · next fits =>
          cases found
          refine ⟨[b], rfl, .last low, Nat.le_refl 1, ?_⟩
          rw [capacity]
          omega
      · cases found
  | succ k ih =>
    cases bs with
    | nil => cases found
    | cons b bs =>
      rw [scan?_cons] at found
      split at found
      · next low =>
        split at found
        · cases found
        · cases found
          refine ⟨[b], rfl, .last low, Nat.le_add_left 1 _, ?_⟩
          have positive := capacity_pos k
          rw [capacity]
          omega
      · next high =>
        split at found
        · cases found
        · next m rest' scanned =>
          cases found
          obtain ⟨taken, rfl, spells, short, small⟩ := ih scanned
          have byte := b.toNat_lt
          refine ⟨b :: taken, rfl, .more (Nat.not_lt.mp high) spells, ?_, ?_⟩
          · rw [List.length_cons]
            omega
          · rw [capacity]
            omega

theorem IsSpelling.reads {bs : Bytes} {n : Nat} (h : IsSpelling bs n) : read.Reads bs n := by
  intro rest
  rw [run_read, h.spells.scan?_eq (k := 9) h.short (Nat.lt_succ_of_le h.small)]

/-- What is read stands in front, as a spelling. -/
theorem isSpelling_of_read {bs : Bytes} {n : Nat} {rest : Input}
    (h : read.run (.ofBytes bs) = .ok (n, rest)) :
    ∃ taken, bs = taken ++ rest.bytes ∧ IsSpelling taken n := by
  rw [run_read] at h
  split at h
  · cases h
  · next out scanned =>
    cases h
    obtain ⟨taken, parts, spells, short, small⟩ := spells_of_scan? scanned
    exact ⟨taken, parts, spells, short, Nat.le_of_lt_succ small⟩

/-- Exactly the spellings are read. -/
theorem reads_iff {bs : Bytes} {n : Nat} : read.Reads bs n ↔ IsSpelling bs n := by
  constructor
  · intro h
    obtain ⟨taken, parts, spelling⟩ := isSpelling_of_read (h [])
    simp only [Input.bytes_ofBytes, List.append_nil] at parts
    rw [parts]
    exact spelling
  · intro h
    exact h.reads

end Varint

/-! ## Keys -/

theorem WireType.toNat_of_ofNat? {n : Nat} {t : WireType} (h : ofNat? n = some t) :
    t.toNat = n := by
  unfold ofNat? at h
  split at h <;> cases h <;> rfl

namespace Key

/-- The greatest number of a field: 29 bits. -/
def maxFieldNumber : Nat := 0x1FFFFFFF

/-- A spelling of the number that the key is written as. -/
structure IsSpelling (bs : Bytes) (k : Key) : Prop where
  spelling : Varint.IsSpelling bs (8 * k.number + k.type.toNat)
  positive : 0 < k.number
  small : k.number ≤ maxFieldNumber

theorem of_ofNat {n : Nat} {k : Key} {i rest : Input} (h : (ofNat n).run i = .ok (k, rest)) :
    rest = i ∧ n = 8 * k.number + k.type.toNat ∧ 0 < k.number ∧ n ≤ maxNumber := by
  unfold ofNat at h
  split at h
  · cases h
  · next small =>
    split at h
    · cases h
    · next type layout =>
      split at h
      · cases h
      · next positive =>
        cases h
        have low := WireType.toNat_of_ofNat? layout
        refine ⟨rfl, ?_, Nat.pos_of_ne_zero positive, Nat.not_lt.mp small⟩
        show n = 8 * (n / 8) + type.toNat
        omega

theorem IsSpelling.reads {bs : Bytes} {k : Key} (h : IsSpelling bs k) : read.Reads bs k := by
  have layout := k.type.toNat_lt
  have small : 8 * k.number + k.type.toNat ≤ maxNumber := by
    have named := h.small
    simp only [maxFieldNumber, maxNumber] at named ⊢
    omega
  have second : (ofNat (8 * k.number + k.type.toNat)).Reads [] k := by
    rw [ofNat_toNat h.positive small]
    exact Reader.Reads.pure k
  have both := h.spelling.reads.bind second
  rw [List.append_nil] at both
  exact both

theorem isSpelling_of_read {bs : Bytes} {k : Key} {rest : Input}
    (h : read.run (.ofBytes bs) = .ok (k, rest)) :
    ∃ taken, bs = taken ++ rest.bytes ∧ IsSpelling taken k := by
  rw [read, Reader.run_bind] at h
  split at h
  · cases h
  · next n middle number =>
    obtain ⟨taken, parts, spelling⟩ := Varint.isSpelling_of_read number
    obtain ⟨rfl, rfl, positive, small⟩ := of_ofNat h
    refine ⟨taken, parts, spelling, positive, ?_⟩
    simp only [maxFieldNumber, maxNumber] at small ⊢
    omega

/-- Exactly the spellings of a key are read as that key. -/
theorem reads_iff {bs : Bytes} {k : Key} : read.Reads bs k ↔ IsSpelling bs k := by
  constructor
  · intro h
    obtain ⟨taken, parts, spelling⟩ := isSpelling_of_read (h [])
    simp only [Input.bytes_ofBytes, List.append_nil] at parts
    rw [parts]
    exact spelling
  · intro h
    exact h.reads

/-- A key is one of its spellings as it is written. -/
theorem isSpelling_encode {k : Key} (named : 0 < k.number)
    (small : 8 * k.number + k.type.toNat ≤ maxNumber) : IsSpelling k.encode k :=
  reads_iff.mp (reads_encode named small)

/-- No spelling of a key is shorter than its shortest varint. -/
theorem width_le_of_reads {bs : Bytes} {k : Key} (h : read.Reads bs k) :
    Varint.width (8 * k.number + k.type.toNat) ≤ bs.length :=
  (reads_iff.mp h).spelling.spells.width_le

end Key

end Courier.Wire
