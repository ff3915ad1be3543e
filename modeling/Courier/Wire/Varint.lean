import Courier.Wire.Reader

/-!
# Varints

A natural number is written seven bits a byte, least significant first; a set high bit says that
more follow. Readers accept longer forms of the same number, but no more than ten bytes and no
number of more than 64 bits. `read_encode` reads a written number back, and `length_encode`
counts its bytes without writing it.
-/

namespace Courier.Wire.Varint

/-- The shortest varint of a number. -/
def encode (n : Nat) : Bytes :=
  if n < 128 then [UInt8.ofNat n]
  else UInt8.ofNat (n % 128 + 128) :: encode (n / 128)
termination_by n
decreasing_by omega

/-- The number of bytes of the shortest varint. -/
def width (n : Nat) : Nat :=
  if n < 128 then 1 else 1 + width (n / 128)
termination_by n
decreasing_by omega

theorem length_encode (n : Nat) : (encode n).length = width n := by
  induction n using Nat.strongRecOn with
  | _ n ih =>
    unfold encode width
    split
    · rfl
    · simp [ih (n / 128) (by omega), Nat.add_comm]

/-- The number that a varint of at most `k` bytes spells, and what follows it. The last byte
allowed may only complete 64 bits. -/
def scan? : Nat → Input → Option (Nat × Input)
  | 0, _ => none
  | k + 1, i =>
    match i.next? with
    | none => none
    | some (b, rest) =>
      if b.toNat < 128 then
        if k = 0 ∧ 2 ≤ b.toNat then none else some (b.toNat, rest)
      else
        match scan? k rest with
        | none => none
        | some (n, rest) => some (b.toNat - 128 + 128 * n, rest)

theorem size_lt_of_scan? {k : Nat} {i rest : Input} {n : Nat}
    (h : scan? k i = some (n, rest)) : rest.size < i.size := by
  induction k generalizing i n rest with
  | zero => cases h
  | succ k ih =>
    rw [scan?] at h
    split at h
    · cases h
    · next b middle first =>
      have smaller := Input.size_lt_of_next? first
      split at h
      · split at h
        · cases h
        · cases h
          exact smaller
      · split at h
        · cases h
        · next _ _ scanned =>
          cases h
          exact Nat.lt_trans (ih scanned) smaller

/-- One step of a scan, by the first byte. -/
theorem scan?_cons (k : Nat) (b : UInt8) (bs : Bytes) :
    scan? (k + 1) (.ofBytes (b :: bs)) =
      if b.toNat < 128 then
        if k = 0 ∧ 2 ≤ b.toNat then none else some (b.toNat, .ofBytes bs)
      else
        match scan? k (.ofBytes bs) with
        | none => none
        | some (n, rest) => some (b.toNat - 128 + 128 * n, rest) := rfl

/-- The first number that `k + 1` bytes cannot spell if the last one may only complete 64 bits. -/
def capacity : Nat → Nat
  | 0 => 2
  | k + 1 => 128 * capacity k

/-- A number that `k + 1` bytes can spell is scanned back from its shortest varint, whatever
follows. -/
theorem scan?_encode {k n : Nat} (h : n < capacity k) (rest : Bytes) :
    scan? (k + 1) (.ofBytes (encode n ++ rest)) = some (n, .ofBytes rest) := by
  induction k generalizing n with
  | zero =>
    have small : n < 2 := h
    have byte : (UInt8.ofNat n).toNat = n := by simp; omega
    rw [encode, if_pos (by omega)]
    simp only [List.cons_append, List.nil_append, scan?_cons, byte]
    rw [if_pos (by omega), if_neg (by omega)]
  | succ k ih =>
    rw [encode]
    split
    · next small =>
      have byte : (UInt8.ofNat n).toNat = n := by simp; omega
      simp only [List.cons_append, List.nil_append, scan?_cons, byte]
      rw [if_pos small, if_neg (by omega)]
    · have byte : (UInt8.ofNat (n % 128 + 128)).toNat = n % 128 + 128 := by simp; omega
      have smaller : n / 128 < capacity k := by
        rw [capacity] at h
        omega
      simp only [List.cons_append, scan?_cons, byte, ih smaller]
      rw [if_neg (by omega)]
      simp only [Option.some.injEq, Prod.mk.injEq, and_true]
      omega

/-- Reads a varint of at most ten bytes. -/
def read : Reader Nat where
  run i :=
    match scan? 10 i with
    | none => .error { cause := .invalidVarint }
    | some out => .ok out
  size_le {i n rest} h := by
    cases scanned : scan? 10 i with
    | none => simp [scanned] at h
    | some out =>
      simp only [scanned] at h
      cases h
      exact Nat.le_of_lt (size_lt_of_scan? scanned)

theorem run_read (i : Input) :
    read.run i = match scan? 10 i with
      | none => .error { cause := .invalidVarint }
      | some out => .ok out := rfl

/-- The greatest number of 64 bits. -/
def maxNumber : Nat := 0xFFFFFFFFFFFFFFFF

/-- Every number of 64 bits is read back from its shortest varint, whatever follows. -/
theorem read_encode {n : Nat} (h : n ≤ maxNumber) (rest : Bytes) :
    read.run (.ofBytes (encode n ++ rest)) = .ok (n, .ofBytes rest) := by
  rw [run_read, scan?_encode (k := 9) (Nat.lt_succ_of_le h)]

/-- A varint has at least one byte. -/
theorem size_lt_of_read {i rest : Input} {n : Nat} (h : read.run i = .ok (n, rest)) :
    rest.size < i.size := by
  rw [run_read] at h
  cases scanned : scan? 10 i with
  | none => simp [scanned] at h
  | some out =>
    simp only [scanned] at h
    cases h
    exact size_lt_of_scan? scanned

end Courier.Wire.Varint
