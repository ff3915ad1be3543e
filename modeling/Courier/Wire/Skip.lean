import Courier.Wire.Varint

/-!
# Keys and unknown fields

Every field starts with a key: its number and its layout in one varint. A field that a message does
not declare is passed over. A group is passed over field by field until its own end key; groups nest
as deep as the budget allows. `skip` is structural in the budget, the loop over a group ends because
every key takes a byte.
-/

namespace Courier.Wire

/-- The number and the layout of a field. -/
structure Key where
  number : Nat
  type : WireType
  deriving DecidableEq

namespace Key

def encode (k : Key) : Bytes := Varint.encode (8 * k.number + k.type.toNat)

/-- The greatest number that may spell a key: 32 bits. -/
def maxNumber : Nat := 0xFFFFFFFF

/-- The key that a number spells. Its size is checked first, its layout second and the field
number last. -/
def ofNat (n : Nat) : Reader Key :=
  if maxNumber < n then .fail (.invalidKey n)
  else
    match WireType.ofNat? (n % 8) with
    | none => .fail (.invalidWireType (n % 8))
    | some type => if n / 8 = 0 then .fail .zeroFieldNumber else pure ⟨n / 8, type⟩

def read : Reader Key := Varint.read >>= ofNat

/-- A key has at least one byte. -/
theorem size_lt_of_read {i rest : Input} {k : Key} (h : read.run i = .ok (k, rest)) :
    rest.size < i.size := by
  rw [read, Reader.run_bind] at h
  cases first : Varint.read.run i with
  | error e => simp [first] at h
  | ok out =>
    obtain ⟨n, middle⟩ := out
    simp only [first] at h
    exact Nat.lt_of_le_of_lt ((ofNat n).size_le h) (Varint.size_lt_of_read first)

end Key

/-! ## Passing over fields -/

/-- Passes over the fields of a group, up to and including the end key of number `number`.
`inner` passes over one field. -/
def group (inner : Key → Reader Unit) (number : Nat) (i : Input) : Except Fault (Unit × Input) :=
  match _ : Key.read.run i with
  | .error e => .error e
  | .ok (key, rest) =>
    if key.type = .endGroup then
      if key.number = number then .ok ((), rest) else .error { cause := .unexpectedEndGroup }
    else
      match _ : (inner key).run rest with
      | .error e => .error e
      | .ok (_, rest') => group inner number rest'
termination_by i.size
decreasing_by
  rename_i first _ _ step
  exact Nat.lt_of_le_of_lt ((inner key).size_le step) (Key.size_lt_of_read first)

theorem size_le_of_group {inner : Key → Reader Unit} {number : Nat} {i rest : Input} {u : Unit}
    (h : group inner number i = .ok (u, rest)) : rest.size ≤ i.size := by
  fun_induction group inner number i with
  | case1 => cases h
  | case2 _ _ _ first =>
    cases h
    exact Nat.le_of_lt (Key.size_lt_of_read first)
  | case3 => cases h
  | case4 => cases h
  | case5 _ _ _ first _ _ _ step ih =>
    exact Nat.le_trans (ih h)
      (Nat.le_trans ((inner _).size_le step) (Nat.le_of_lt (Key.size_lt_of_read first)))

/-- The reader that passes over a group. -/
def groupReader (inner : Key → Reader Unit) (number : Nat) : Reader Unit where
  run := group inner number
  size_le := size_le_of_group

/-- Passes over the value of a field that is not declared; `budget` is the nesting still
allowed. -/
def skip : (budget : Nat) → Key → Reader Unit
  | 0, _ => .fail .recursionLimit
  | budget + 1, key =>
    match key.type with
    | .varint => do
      let _ ← Varint.read
      return ()
    | .sixtyFourBit => Reader.skip 8
    | .lengthDelimited => Varint.read >>= Reader.skip
    | .startGroup => groupReader (skip budget) key.number
    | .endGroup => .fail .unexpectedEndGroup
    | .thirtyTwoBit => Reader.skip 4

end Courier.Wire
