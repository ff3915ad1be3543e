import Courier.Text.Percent

/-!
# Spellings in percent encoding

A text can be percent-encoded in many ways: every byte may be written as a triple, in digits of
either case, and only some have to be. `Spells` is any of these ways, and decoding undoes all of
them (`decode_of_spells`). What `encode` writes is one of them (`spells_encode`).
-/

namespace Courier.Text.Percent

def upperDigits : Bytes := utf8 "0123456789ABCDEF"
def lowerDigits : Bytes := utf8 "0123456789abcdef"

/-- Whether `d` is a hexadecimal digit for `n`. -/
def IsDigit (d n : UInt8) : Prop :=
  upperDigits[n.toNat]? = some d ∨ lowerDigits[n.toNat]? = some d

instance (d n : UInt8) : Decidable (IsDigit d n) := inferInstanceAs (Decidable (_ ∨ _))

/-- The values that stand for a byte string in percent encoding. Only a visible byte or a space may
stand for itself, and the percent sign may not. -/
inductive Spells : (value bytes : Bytes) → Prop
  | nil : Spells [] []
  | plain {b : UInt8} {value bytes : Bytes} :
      0x20 ≤ b → b ≤ 0x7E → b ≠ 0x25 → Spells value bytes → Spells (b :: value) (b :: bytes)
  | triple {high low b : UInt8} {value bytes : Bytes} :
      IsDigit high (b / 16) → IsDigit low (b % 16) → Spells value bytes →
        Spells (0x25 :: high :: low :: value) (b :: bytes)

theorem digitValue?_of_isDigit {d n : UInt8} (digit : IsDigit d n) : digitValue? d = some n := by
  have all : ∀ n : Fin 256, ∀ d ∈ upperDigits[n.val]?.toList ++ lowerDigits[n.val]?.toList,
      digitValue? d = some (UInt8.ofFin n) := by decide +kernel
  refine all n.toFin d (List.mem_append.mpr ?_)
  rcases digit with upper | lower
  · left
    show d ∈ upperDigits[n.toNat]?.toList
    rw [upper]
    exact List.mem_singleton_self d
  · right
    show d ∈ lowerDigits[n.toNat]?.toList
    rw [lower]
    exact List.mem_singleton_self d

/-- The two halves of a byte make it up. -/
theorem byte?_of_isDigit {high low b : UInt8} (upper : IsDigit high (b / 16))
    (lower : IsDigit low (b % 16)) : byte? high low = some b := by
  have halves : ∀ b : Fin 256, 16 * (UInt8.ofFin b / 16) + UInt8.ofFin b % 16 = UInt8.ofFin b := by
    decide +kernel
  rw [byte?, digitValue?_of_isDigit upper, digitValue?_of_isDigit lower]
  exact congrArg some (halves b.toFin)

/-- Decoding gives back what was spelled, however it was spelled. -/
theorem decode_of_spells {value bytes : Bytes} (spells : Spells value bytes) :
    decode value = bytes := by
  induction spells with
  | nil => rfl
  | plain _ _ notPercent _ ih => rw [decode_cons_of_ne notPercent, ih]
  | triple upper lower _ ih =>
    rw [decode, if_pos rfl, byte?_of_isDigit upper lower]
    exact congrArg _ ih

/-- What is written is a spelling: its digits are in upper case, and a byte that is safe may stand
for itself. -/
theorem spells_encode (bytes : Bytes) : Spells (encode bytes) bytes := by
  induction bytes with
  | nil => exact .nil
  | cons b bytes ih =>
    have digits : ∀ b : Fin 256, IsDigit (digit (UInt8.ofFin b / 16)) (UInt8.ofFin b / 16) ∧
        IsDigit (digit (UInt8.ofFin b % 16)) (UInt8.ofFin b % 16) := by decide +kernel
    rw [encode, List.flatMap_cons]
    split
    · next safe =>
      obtain ⟨⟨above, below⟩, -⟩ : (0x20 < b ∧ b < 0x7F) ∧ _ := by simpa [isSafe] using safe
      have most : b ≤ 0x7E := UInt8.le_iff_toNat_le.mpr (Nat.le_of_lt_succ below)
      exact .plain (UInt8.le_of_lt above) most (ne_of_isSafe safe) ih
    · exact .triple (digits b.toFin).1 (digits b.toFin).2 ih

end Courier.Text.Percent
