import Courier.CommandLine.Parse
import Courier.Proofs.CommandLine.HeaderSpelling

/-!
# Words of the command `send`

A word sets one thing: a flag with its value behind an equals sign, or a text that fills the next
place. What such a value holds is of no account to how the word is read, since a flag ends at its
first equals sign (`shape_flag`) and a text is a flag only if a hyphen stands in front
(`shape_plain`). So a word does one thing to a scan, whatever has been read before it
(`Scan.step_flag`, `Scan.step_place`).
-/

namespace Courier

/-! ## Numbers -/

namespace Text.Decimal

variable {cs : List Char} {n : Nat}

/-- More digits make no smaller number. -/
theorem le_ofDigitChars (n : Nat) (cs : List Char) : n ≤ Nat.ofDigitChars 10 cs n := by
  induction cs generalizing n with
  | nil => exact Nat.le_refl n
  | cons c cs ih =>
    have rest : 10 * n + (c.toNat - '0'.toNat) ≤ Nat.ofDigitChars 10 (c :: cs) n := ih _
    omega

/-- Digits are read as their number if it has 64 bits: then so has every number on the way. -/
theorem readFrom_of_digits (digits : ∀ c ∈ cs, c.isDigit = true)
    (small : Nat.ofDigitChars 10 cs n ≤ maxNumber) :
    readFrom n cs = .ok (Nat.ofDigitChars 10 cs n) := by
  induction cs generalizing n with
  | nil => rfl
  | cons c cs ih =>
    obtain ⟨digit, rest⟩ := List.forall_mem_cons.mp digits
    have later : Nat.ofDigitChars 10 cs (10 * n + (c.toNat - '0'.toNat)) ≤ maxNumber := small
    have now := (le_ofDigitChars (10 * n + (c.toNat - '0'.toNat)) cs).trans later
    rw [readFrom, if_pos digit]
    dsimp only
    rw [if_neg (Nat.not_lt.mpr now), ih rest later]
    rfl

/-- Every number of 64 bits is read back from its decimal digits. -/
theorem read_toString (small : n ≤ maxNumber) : read (toString n) = .ok n := by
  have digits : ∀ c ∈ Nat.toDigits 10 n, c.isDigit = true :=
    fun _ mem => Nat.isDigit_of_mem_toDigits (by decide) (by decide) mem
  have whole : readFrom 0 (Nat.toDigits 10 n) = .ok n := by
    rw [readFrom_of_digits digits (by rwa [Nat.ofDigitChars_ten_toDigits]),
      Nat.ofDigitChars_ten_toDigits]
  unfold read
  rw [Nat.toString_eq_ofList_toDigits, String.toList_ofList]
  cases written : Nat.toDigits 10 n with
  | nil => exact absurd written Nat.toDigits_ne_nil
  | cons c cs =>
    rw [written] at digits whole
    have notSign : c ≠ '+' := by
      rintro rfl
      exact absurd (digits '+' List.mem_cons_self) (by decide)
    simp [notSign, readDigits, whole]

end Text.Decimal

namespace CommandLine

/-! ## What an argument looks like -/

namespace Argument

theorem ofText_inj {s t : String} : ofText s = ofText t ↔ s = t := by
  constructor
  · intro same
    have texts := congrArg text? same
    simpa [text?, ofText] using texts
  · rintro rfl
    rfl

/-- The first equals sign ends the name, whatever stands behind it. -/
theorem splitEquals_of_not_mem {name : List Char} (free : '=' ∉ name) (value : Argument) :
    splitEquals (name.map .char ++ .char '=' :: value) = (name.map .char, some value) := by
  induction name with
  | nil => simp [splitEquals]
  | cons c name ih =>
    obtain ⟨ne, free⟩ := not_or.mp (List.mem_cons.not.mp free)
    have differs : Text.Utf8.Piece.char c ≠ .char '=' := by simpa using Ne.symm ne
    rw [List.map_cons, List.cons_append, splitEquals, if_neg differs, ih free]

/-- A text that no hyphen begins is no option. -/
theorem shape_plain {s : String} (plain : s.toList.head? ≠ some '-') :
    (ofText s).shape = .plain := by
  unfold ofText Text.Utf8.ofText
  cases written : s.toList with
  | nil => rfl
  | cons c cs =>
    have notHyphen : c ≠ '-' := by simpa [written] using plain
    unfold shape
    split <;> simp_all

/-- Two hyphens with something behind them begin a long option. -/
theorem shape_long {rest : Argument} (filled : rest ≠ []) :
    shape (.char '-' :: .char '-' :: rest) = .long (splitEquals rest).1 (splitEquals rest).2 := by
  cases rest with
  | nil => exact absurd rfl filled
  | cons p ps => rfl

end Argument

/-- A setting with its value in one argument. -/
def flag (t : Setting) (value : String) : String := "--" ++ t.long ++ "=" ++ value

theorem shape_flag (t : Setting) (value : String) :
    (Argument.ofText (flag t value)).shape =
      .long (Argument.ofText t.long) (some (Argument.ofText value)) := by
  have free : '=' ∉ t.long.toList := by cases t <;> decide
  have written : Argument.ofText (flag t value) =
      .char '-' :: .char '-' ::
        (t.long.toList.map .char ++ .char '=' :: Argument.ofText value) := by
    simp [flag, Argument.ofText, Text.Utf8.ofText]
  rw [written, Argument.shape_long (by simp), Argument.splitEquals_of_not_mem free]
  rfl

/-! ## What a word does to a scan -/

namespace Scan

variable {s : Scan} {d d' : Draft}

theorem settle_of_settled (settled : s.settled = (d, none)) :
    s.settle = .ok { s with draft := d, pending := none } := by
  rw [settle, settled]

/-- A setting that waits for its value cannot be settled. -/
theorem awaiting?_of_settled (settled : s.settled = (d, none)) : s.awaiting? = none := by
  unfold Scan.settled at settled
  unfold awaiting?
  cases pending : s.pending with
  | none => rfl
  | some p =>
    cases p with
    | value target value => rfl
    | awaited t =>
      rw [pending] at settled
      cases settled

/-- A flag sets its setting at once, after what was pending. -/
theorem step_flag {t : Setting} {value : String} (leading : s.trailing = false)
    (settled : s.settled = (d, none))
    (assigned : d.assign (.setting t) (Argument.ofText value) = (d', none)) :
    s.step (Argument.ofText (flag t value)) = .ok { s with draft := d', pending := none } := by
  have named : (Argument.ofText t.long).text? = some t.long := Text.Utf8.text?_ofText t.long
  have noHelp : t.long ≠ Flag.help.long := by cases t <;> decide
  rw [step, if_neg (by simp [leading]), shape_flag]
  show s.long (Argument.ofText t.long) (some (Argument.ofText value)) = _
  rw [long, named]
  dsimp only
  rw [if_neg noHelp, Setting.ofLong?_long]
  show s.attach t (Argument.ofText value) = _
  rw [attach, settle_of_settled settled]
  dsimp only
  rw [assigned]

/-- A text becomes the pending value of the next place, after what was pending. -/
theorem step_place {text : String} {slot : Slot}
    (plain : s.trailing = true ∨ text.toList.head? ≠ some '-') (settled : s.settled = (d, none))
    (open' : s.slot = some slot) :
    s.step (Argument.ofText text) =
      .ok
        { s with
          draft := d
          pending := some (.value (.slot slot) (Argument.ofText text))
          slot := slot.next? } := by
  have placed : s.step (Argument.ofText text) = s.place (Argument.ofText text) := by
    unfold step
    split_ifs with trailing
    · rfl
    · have bare := plain.resolve_left trailing
      rw [Argument.shape_plain bare]
      dsimp only
      rw [awaiting?_of_settled settled]
  rw [placed, place, open']
  dsimp only
  rw [settle_of_settled settled]

end Scan

end CommandLine

end Courier
