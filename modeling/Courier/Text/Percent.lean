import Courier.Bytes

/-!
# Percent encoding

A byte may be written as a percent sign and two hexadecimal digits. `decode` leaves alone what is
not such a triple; `encode` writes triples for every byte that is not safe in a header line.
-/

namespace Courier.Text.Percent

def digitValue? (b : UInt8) : Option UInt8 :=
  if 0x30 ≤ b && b ≤ 0x39 then some (b - 0x30)
  else if 0x41 ≤ b && b ≤ 0x46 then some (b - 0x37)
  else if 0x61 ≤ b && b ≤ 0x66 then some (b - 0x57)
  else none

/-- The byte that two hexadecimal digits spell. -/
def byte? (high low : UInt8) : Option UInt8 :=
  match digitValue? high, digitValue? low with
  | some h, some l => some (16 * h + l)
  | _, _ => none

/-- The bytes that an encoded byte string stands for. -/
def decode : Bytes → Bytes
  | [] => []
  | [b] => [b]
  | [b, c] => [b, c]
  | b :: high :: low :: bs =>
    if b = 0x25 then
      match byte? high low with
      | some c => c :: decode bs
      | none => b :: decode (high :: low :: bs)
    else b :: decode (high :: low :: bs)

/-- The bytes that are written as they are: visible in ASCII, and none of the marks that a line
or an address gives a meaning. -/
def isSafe (b : UInt8) : Bool :=
  0x20 < b && b < 0x7F && !(utf8 "\"#%<>?`\x7b\x7d").contains b

def digit (n : UInt8) : UInt8 := if n < 10 then 0x30 + n else 0x37 + n

def triple (b : UInt8) : Bytes := [0x25, digit (b / 16), digit (b % 16)]

def encode (bs : Bytes) : Bytes := bs.flatMap fun b => if isSafe b then [b] else triple b

/-! ## Reading back -/

theorem decode_cons_of_ne {b : UInt8} (ne : b ≠ 0x25) (bs : Bytes) :
    decode (b :: bs) = b :: decode bs := by
  match bs with
  | [] => rfl
  | [_] => rfl
  | _ :: _ :: _ => rw [decode, if_neg ne]

theorem byte?_digit (b : UInt8) : byte? (digit (b / 16)) (digit (b % 16)) = some b := by
  have all : ∀ b : Fin 256, byte? (digit (UInt8.ofFin b / 16)) (digit (UInt8.ofFin b % 16))
      = some (UInt8.ofFin b) := by decide +kernel
  exact all b.toFin

/-- A written triple is read as its byte, whatever follows. -/
theorem decode_triple_append (b : UInt8) (bs : Bytes) :
    decode (triple b ++ bs) = b :: decode bs := by
  simp only [triple, List.cons_append, List.nil_append, decode, if_pos, byte?_digit]

theorem ne_of_isSafe {b : UInt8} (safe : isSafe b = true) : b ≠ 0x25 := by
  rintro rfl
  revert safe
  decide +kernel

/-- Every byte string is read back from its encoding. -/
theorem decode_encode (bs : Bytes) : decode (encode bs) = bs := by
  induction bs with
  | nil => rfl
  | cons b bs ih =>
    simp only [encode, List.flatMap_cons]
    split
    · next safe =>
      rw [List.singleton_append, decode_cons_of_ne (ne_of_isSafe safe)]
      exact congrArg _ ih
    · rw [decode_triple_append]
      exact congrArg _ ih

end Courier.Text.Percent
