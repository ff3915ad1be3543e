import Courier.Bytes

/-!
# Inputs

What a reader has not read yet: bytes with their number, so that asking how many there are costs
nothing. An input is nothing more than its bytes (`eq_ofBytes`), and every way to read from one is
described by what it does to `ofBytes`.
-/

namespace Courier.Wire

/-- Bytes and how many they are. -/
structure Input where
  bytes : Bytes
  size : Nat
  size_eq : size = bytes.length
  deriving DecidableEq

namespace Input

/-- The input of all these bytes. -/
def ofBytes (bs : Bytes) : Input := { bytes := bs, size := bs.length, size_eq := rfl }

@[simp] theorem bytes_ofBytes (bs : Bytes) : (ofBytes bs).bytes = bs := rfl

@[simp] theorem size_ofBytes (bs : Bytes) : (ofBytes bs).size = bs.length := rfl

/-- An input is determined by its bytes. -/
theorem eq_ofBytes (i : Input) : i = ofBytes i.bytes := by
  obtain ⟨bs, _, rfl⟩ := i
  rfl

theorem ofBytes_inj {as bs : Bytes} : ofBytes as = ofBytes bs ↔ as = bs :=
  ⟨fun h => congrArg bytes h, fun h => congrArg ofBytes h⟩

/-- The first byte, and what follows it. -/
def next? : Input → Option (UInt8 × Input)
  | ⟨[], _, _⟩ => none
  | ⟨b :: bs, size, size_eq⟩ =>
    some (b, { bytes := bs, size := size - 1, size_eq := by rw [size_eq]; rfl })

@[simp] theorem next?_nil : (ofBytes []).next? = none := rfl

@[simp] theorem next?_cons (b : UInt8) (bs : Bytes) :
    (ofBytes (b :: bs)).next? = some (b, ofBytes bs) := rfl

theorem size_lt_of_next? {i rest : Input} {b : UInt8} (h : i.next? = some (b, rest)) :
    rest.size < i.size := by
  rw [i.eq_ofBytes] at h ⊢
  match split : i.bytes with
  | [] => simp [split] at h
  | _ :: bs =>
    simp only [split, next?_cons, Option.some.injEq, Prod.mk.injEq] at h
    simp [← h.2]

/-- The first `n` bytes, if there are as many, and what follows them. -/
def split? (n : Nat) (i : Input) : Option (Bytes × Input) :=
  if n ≤ i.size then
    some (i.bytes.take n,
      { bytes := i.bytes.drop n
        size := i.size - n
        size_eq := by rw [i.size_eq, List.length_drop] })
  else none

theorem split?_ofBytes (n : Nat) (bs : Bytes) :
    (ofBytes bs).split? n =
      if n ≤ bs.length then some (bs.take n, ofBytes (bs.drop n)) else none := by
  unfold split?
  by_cases h : n ≤ bs.length
  · rw [if_pos h, if_pos (show n ≤ (ofBytes bs).size from h)]
    exact congrArg (fun rest => some (bs.take n, rest)) (eq_ofBytes _)
  · rw [if_neg h, if_neg (show ¬n ≤ (ofBytes bs).size from h)]

theorem size_le_of_split? {n : Nat} {i rest : Input} {bs : Bytes}
    (h : i.split? n = some (bs, rest)) : rest.size ≤ i.size := by
  simp only [split?, Option.ite_none_right_eq_some, Option.some.injEq, Prod.mk.injEq] at h
  simp [← h.2.2]

end Input

end Courier.Wire
