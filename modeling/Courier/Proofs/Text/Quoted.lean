import Courier.Text.Characters
import Courier.Text.Numbers
import Mathlib.Data.List.TakeWhile

/-!
# Quoted texts read back

Quoting loses nothing and shows nothing. `unescape?` reads what one character was written as, so
that two texts are quoted alike only if they are the same (`quoted_inj`); this also holds of texts
that themselves contain escapes. Every character of a quoted text is printable
(`isPrintable_of_mem_quoted`): there is no control character in it, whatever was quoted.
-/

namespace Courier.Text

variable {mark c : Char} {n : Nat}

/-! ## Hexadecimal digits -/

theorem digit?_digitChar (small : n < 16) : digit? 16 n.digitChar = some n := by
  have all : ∀ d : Fin 16, digit? 16 (Nat.digitChar d) = some d.val := by decide
  exact all ⟨n, small⟩

/-- A number is that of its digits: the last digit is its remainder, and the digits before it are
those of its quotient. -/
theorem number?_toDigits (n : Nat) : number? 16 (Nat.toDigits 16 n) = some n := by
  rw [number?, if_neg Nat.toDigits_ne_nil]
  induction n using Nat.strongRecOn with
  | ind n ih =>
    rcases Nat.lt_or_ge n 16 with single | more
    · rw [Nat.toDigits_of_lt_base single]
      simp [digit?_digitChar single]
    · have fewer : n / 16 < n := by omega
      have last : n % 16 < 16 := by omega
      rw [Nat.toDigits_of_base_le (by decide) more, List.foldlM_append, ih _ fewer]
      simp [digit?_digitChar last, Nat.div_add_mod]

theorem exists_of_mem_toDigits (mem : c ∈ Nat.toDigits 16 n) : ∃ d < 16, c = Nat.digitChar d := by
  induction n using Nat.strongRecOn with
  | ind n ih =>
    rcases Nat.lt_or_ge n 16 with single | more
    · rw [Nat.toDigits_of_lt_base single] at mem
      exact ⟨n, single, List.mem_singleton.mp mem⟩
    · rw [Nat.toDigits_of_base_le (by decide) more, List.mem_append] at mem
      rcases mem with front | last
      · exact ih (n / 16) (by omega) front
      · exact ⟨n % 16, by omega, List.mem_singleton.mp last⟩

/-- A hexadecimal digit is printable, and it is no brace. -/
theorem of_mem_toDigits (mem : c ∈ Nat.toDigits 16 n) : isPrintable c = true ∧ c ≠ '\x7d' := by
  obtain ⟨d, small, rfl⟩ := exists_of_mem_toDigits mem
  have all : ∀ d : Fin 16,
      isPrintable (Nat.digitChar d) = true ∧ Nat.digitChar d ≠ '\x7d' := by decide
  exact all ⟨d, small⟩

/-! ## Reading one character -/

/-- The character that a letter behind a backslash stands for. -/
def named (c : Char) : Char :=
  if c = '0' then '\x00'
  else if c = 't' then '\t'
  else if c = 'r' then '\r'
  else if c = 'n' then '\n'
  else c

/-- Reads on behind a backslash. -/
def unescapeRest? : List Char → Option (Char × List Char)
  | [] => none
  | c :: cs =>
    if c = 'u' then
      -- The digits stand behind the opening brace, up to the closing one.
      (number? 16 ((cs.drop 1).takeWhile (· != '\x7d'))).map fun n =>
        (Char.ofNat n, ((cs.drop 1).dropWhile (· != '\x7d')).drop 1)
    else some (named c, cs)

/-- The character that an escaped text starts with, and what follows. -/
def unescape? : List Char → Option (Char × List Char)
  | [] => none
  | c :: cs => if c = '\\' then unescapeRest? cs else some (c, cs)

theorem unescape?_escapeNumber (c : Char) (rest : List Char) :
    unescape? (escapeNumber c ++ rest) = some (c, rest) := by
  have digits : ∀ d ∈ Nat.toDigits 16 c.toNat, (d != '\x7d') = true := by
    intro d mem
    simpa using (of_mem_toDigits mem).2
  have taken : (Nat.toDigits 16 c.toNat ++ '\x7d' :: rest).takeWhile (· != '\x7d') =
      Nat.toDigits 16 c.toNat := by
    simp [List.takeWhile_append_of_pos digits]
  have dropped : (Nat.toDigits 16 c.toNat ++ '\x7d' :: rest).dropWhile (· != '\x7d') =
      '\x7d' :: rest := by
    simp [List.dropWhile_append_of_pos digits]
  have written : escapeNumber c ++ rest =
      '\\' :: 'u' :: '\x7b' :: (Nat.toDigits 16 c.toNat ++ '\x7d' :: rest) := by
    simp [escapeNumber]
  rw [written, unescape?, if_pos rfl, unescapeRest?, if_pos rfl, List.drop_succ_cons,
    List.drop_zero, taken, dropped, number?_toDigits, Option.map_some, Char.ofNat_toNat,
    List.drop_succ_cons, List.drop_zero]

/-- Reading undoes writing, unless the mark is a letter that has a meaning behind a backslash. -/
theorem unescape?_escape (own : named mark = mark) (other : mark ≠ 'u') (c : Char)
    (rest : List Char) : unescape? (escape mark c ++ rest) = some (c, rest) := by
  unfold escape
  by_cases nul : c = '\x00'
  · subst nul; rfl
  by_cases tab : c = '\t'
  · subst tab; rfl
  by_cases carriage : c = '\r'
  · subst carriage; rfl
  by_cases line : c = '\n'
  · subst line; rfl
  by_cases backslash : c = '\\'
  · subst backslash; rfl
  by_cases marked : c = mark
  · subst marked
    simp [nul, tab, carriage, line, backslash, unescape?, unescapeRest?, own, other]
  by_cases printable : isPrintable c = true
  · simp [nul, tab, carriage, line, backslash, marked, printable, unescape?]
  · simp only [nul, tab, carriage, line, backslash, marked, printable, if_false]
    exact unescape?_escapeNumber c rest

/-! ## Whole texts -/

/-- No character is written as the start of what another one is written as. -/
theorem escape_append_inj (own : named mark = mark) (other : mark ≠ 'u') {d : Char}
    {cs ds : List Char} (same : escape mark c ++ cs = escape mark d ++ ds) : c = d ∧ cs = ds := by
  have read := congrArg unescape? same
  rw [unescape?_escape own other, unescape?_escape own other] at read
  exact Prod.mk.inj (Option.some.inj read)

theorem flatMap_escape_inj (own : named mark = mark) (other : mark ≠ 'u') {cs ds : List Char}
    (same : cs.flatMap (escape mark) = ds.flatMap (escape mark)) : cs = ds := by
  -- A text of at least one character starts with one that can be read; the empty one does not.
  have filled (c : Char) (cs : List Char) :
      [] ≠ (c :: cs).flatMap (escape mark) := by
    intro empty
    have read := congrArg unescape? empty
    rw [List.flatMap_cons, unescape?_escape own other] at read
    cases read
  induction cs generalizing ds with
  | nil =>
    cases ds with
    | nil => rfl
    | cons d ds => exact absurd same (filled d ds)
  | cons c cs ih =>
    cases ds with
    | nil => exact absurd same.symm (filled c cs)
    | cons d ds =>
      rw [List.flatMap_cons, List.flatMap_cons] at same
      obtain ⟨rfl, rest⟩ := escape_append_inj own other same
      rw [ih rest]

/-- Two texts are quoted alike only if they are the same. -/
theorem quoted_inj {s t : String} : quoted s = quoted t ↔ s = t := by
  constructor
  · intro same
    have inside := List.append_cancel_right (List.cons.inj (String.ofList_injective same)).2
    exact String.toList_inj.mp (flatMap_escape_inj (by decide) (by decide) inside)
  · rintro rfl
    rfl

/-! ## What is seen -/

/-- What a character is written as is printable: a backslash with a letter or the mark behind it,
the character itself where it is printable, and a backslash, letters, braces and digits where it is
not. -/
theorem isPrintable_of_mem_escape (visible : isPrintable mark = true) {d : Char}
    (mem : d ∈ escape mark c) : isPrintable d = true := by
  have pair {letter : Char} (letters : isPrintable letter = true) (mem : d ∈ ['\\', letter]) :
      isPrintable d = true := by
    rcases List.mem_cons.mp mem with rfl | mem
    · decide
    · rwa [List.mem_singleton.mp mem]
  unfold escape at mem
  split_ifs at mem with nul tab carriage line backslash marked printable
  · exact pair (by decide) mem
  · exact pair (by decide) mem
  · exact pair (by decide) mem
  · exact pair (by decide) mem
  · exact pair (by decide) mem
  · exact pair visible mem
  · rwa [List.mem_singleton.mp mem]
  · simp only [escapeNumber, List.cons_append, List.mem_cons, List.mem_append,
      List.not_mem_nil, or_false] at mem
    rcases mem with rfl | rfl | rfl | digit | rfl
    · decide
    · decide
    · decide
    · exact (of_mem_toDigits digit).1
    · decide

theorem isPrintable_of_mem_quoted {s : String} (mem : c ∈ (quoted s).toList) :
    isPrintable c = true := by
  simp only [quoted, String.toList_ofList, List.cons_append, List.mem_cons, List.mem_append,
    List.mem_flatMap, List.not_mem_nil, or_false] at mem
  rcases mem with rfl | ⟨d, -, inside⟩ | rfl
  · decide
  · exact isPrintable_of_mem_escape (by decide) inside
  · decide

end Courier.Text
