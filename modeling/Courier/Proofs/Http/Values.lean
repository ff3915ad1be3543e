import Courier.Http.Headers

/-!
# Values that are visible text

A server shows a header value only if all of its bytes are visible in ASCII. For the bytes of a
text that is a question about its characters (`visibleText?_utf8`): a character beyond ASCII is
written with bytes of which the last one is not visible.
-/

namespace Courier

/-- The bytes of a text are those of its characters. -/
theorem utf8_eq_flatMap (s : String) : utf8 s = s.toList.flatMap String.utf8EncodeChar := by
  show s.toByteArray.data.toList = _
  rw [← String.utf8Encode_toList, List.utf8Encode]
  simp

/-- The bytes of a text in ASCII are as many as its characters. -/
theorem utf8ByteSize_of_ascii {s : String} (ascii : ∀ c ∈ s.toList, c.toNat < 0x80) :
    s.utf8ByteSize = s.toList.length := by
  have single : ∀ c ∈ s.toList, (String.utf8EncodeChar c).length = 1 := by
    intro c mem
    have small : c.toNat ≤ 0x7F := Nat.le_of_lt_succ (ascii c mem)
    unfold String.utf8EncodeChar
    show (if c.toNat ≤ 0x7F then _ else _ : List UInt8).length = 1
    rw [if_pos small]
    rfl
  show (utf8 s).length = _
  rw [utf8_eq_flatMap, List.length_flatMap]
  have ones : s.toList.map (fun c => (String.utf8EncodeChar c).length) =
      s.toList.map fun _ => 1 := List.map_congr_left single
  rw [ones, List.map_const', List.sum_replicate_nat, Nat.mul_one]

/-- A property of ASCII bytes alone holds of all bytes of a character exactly if the character is
in ASCII and has it. -/
theorem all_utf8EncodeChar {p : UInt8 → Bool} (ascii : ∀ b, p b = true → b.toNat < 0x80)
    (c : Char) :
    (String.utf8EncodeChar c).all p = (decide (c.toNat < 0x80) && p (UInt8.ofNat c.toNat)) := by
  -- Every byte of a longer form is at least 0x80, which `p` does not have.
  have high : ∀ n, p (UInt8.ofNat (n % 0x40 + 0x80)) = false := by
    intro n
    cases holds : p (UInt8.ofNat (n % 0x40 + 0x80)) with
    | false => rfl
    | true =>
      have below := ascii _ holds
      rw [UInt8.toNat_ofNat'] at below
      omega
  unfold String.utf8EncodeChar
  show (if c.toNat ≤ 0x7F then _ else _ : List UInt8).all p = _
  split
  · next single =>
    have small : c.toNat < 0x80 := by omega
    simp only [small, decide_true, Bool.true_and, List.all_cons, List.all_nil, Bool.and_true]
    rfl
  · next longer =>
    have large : ¬c.toNat < 0x80 := by omega
    rw [decide_eq_false large, Bool.false_and]
    split
    · simp only [List.all_cons, List.all_nil, Bool.and_true, high, Bool.and_false]
    · split
      · simp only [List.all_cons, List.all_nil, Bool.and_true, high, Bool.and_false]
      · simp only [List.all_cons, List.all_nil, Bool.and_true, high, Bool.and_false]

/-- The same of all bytes of a text. -/
theorem all_utf8 {p : UInt8 → Bool} (ascii : ∀ b, p b = true → b.toNat < 0x80) (s : String) :
    (utf8 s).all p = s.toList.all fun c => decide (c.toNat < 0x80) && p (UInt8.ofNat c.toNat) := by
  rw [utf8_eq_flatMap, List.all_flatMap]
  simp only [all_utf8EncodeChar ascii]

namespace Http

/-- Whether a text is visible in ASCII; spaces and tabs count. -/
def isVisible (s : String) : Bool :=
  s.toList.all fun c => c == '\t' || (decide (0x20 ≤ c.toNat) && decide (c.toNat < 0x7F))

/-- Whether a byte is visible in ASCII; spaces and tabs count. -/
def isVisibleByte (b : UInt8) : Bool := b == 0x09 || (0x20 ≤ b && b < 0x7F)

theorem isVisibleByte_iff {b : UInt8} :
    isVisibleByte b = true ↔ b.toNat = 9 ∨ 0x20 ≤ b.toNat ∧ b.toNat < 0x7F := by
  have tab : b = 9 ↔ b.toNat = 9 := UInt8.toNat_inj.symm
  simp only [isVisibleByte, Bool.or_eq_true, Bool.and_eq_true, beq_iff_eq, decide_eq_true_eq,
    UInt8.le_iff_toNat_le, UInt8.lt_iff_toNat_lt, tab]
  rfl

theorem lt_of_isVisibleByte (b : UInt8) (visible : isVisibleByte b = true) : b.toNat < 0x80 := by
  rcases isVisibleByte_iff.mp visible with tab | shown
  · omega
  · omega

/-- A text is shown as it is if it is visible, and not at all otherwise. -/
theorem visibleText?_utf8 (s : String) :
    visibleText? (utf8 s) = if isVisible s then some s else none := by
  have each : ∀ c : Char,
      (decide (c.toNat < 0x80) && isVisibleByte (UInt8.ofNat c.toNat)) =
        (c == '\t' || (decide (0x20 ≤ c.toNat) && decide (c.toNat < 0x7F))) := by
    intro c
    have tab : c = '\t' ↔ c.toNat = 9 := Char.toNat_inj.symm
    rw [Bool.eq_iff_iff]
    simp only [Bool.or_eq_true, Bool.and_eq_true, decide_eq_true_eq, beq_iff_eq,
      isVisibleByte_iff, UInt8.toNat_ofNat', tab]
    omega
  have visible : (utf8 s).all isVisibleByte = isVisible s := by
    rw [all_utf8 lt_of_isVisibleByte, isVisible]
    simp only [each]
  show (if (utf8 s).all isVisibleByte = true then _ else _) = _
  rw [visible, Bytes.text?_utf8]

end Http

end Courier
