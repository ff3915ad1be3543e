import Courier.Text.Characters
import Mathlib.Data.List.TakeWhile

/-!
# Texts without the blanks around them

Trimming takes a run of blanks off either end (`eq_append_trim`) and leaves no blank at the ends of
what remains (`isTrimmed_trim`). It undoes any blanks that are put around such a text
(`trim_append`), so the two facts describe it in full.
-/

namespace Courier.Text

variable {cs w : List Char} {c : Char}

/-- Only blanks. -/
def Blanks (w : List Char) : Prop := ∀ c ∈ w, isBlank c = true

/-- No blank at either end. -/
structure IsTrimmed (cs : List Char) : Prop where
  head : ∀ c, cs.head? = some c → isBlank c = false
  last : ∀ c, cs.getLast? = some c → isBlank c = false

theorem Blanks.reverse (blank : Blanks w) : Blanks w.reverse :=
  fun c mem => blank c (List.mem_reverse.mp mem)

theorem IsTrimmed.reverse (trimmed : IsTrimmed cs) : IsTrimmed cs.reverse where
  head c first := trimmed.last c (by rwa [List.head?_reverse] at first)
  last c final := trimmed.head c (by rwa [List.getLast?_reverse] at final)

/-! ## The front -/

/-- What is taken off the front is blank. -/
theorem eq_append_trimStart (cs : List Char) : ∃ w, Blanks w ∧ cs = w ++ trimStart cs :=
  ⟨cs.takeWhile isBlank, fun _ mem => List.mem_takeWhile_imp mem,
    List.takeWhile_append_dropWhile.symm⟩

theorem isBlank_of_head?_trimStart (first : (trimStart cs).head? = some c) :
    isBlank c = false := by
  have known := List.head?_dropWhile_not isBlank cs
  rw [trimStart] at first
  rwa [first] at known

theorem trimStart_append (blank : Blanks w) (cs : List Char) :
    trimStart (w ++ cs) = trimStart cs :=
  List.dropWhile_append_of_pos blank

/-- Where no blank stands in front, nothing is taken off. -/
theorem trimStart_eq_self (bare : ∀ c, cs.head? = some c → isBlank c = false) :
    trimStart cs = cs := by
  cases cs with
  | nil => rfl
  | cons c cs => exact List.dropWhile_cons_of_neg (by simp [bare c rfl])

/-! ## Both ends -/

/-- What is taken off the back is blank. -/
theorem eq_trimEnd_append (cs : List Char) : ∃ w, Blanks w ∧ cs = trimEnd cs ++ w := by
  obtain ⟨w, blank, split⟩ := eq_append_trimStart cs.reverse
  refine ⟨w.reverse, blank.reverse, ?_⟩
  rw [trimEnd, ← List.reverse_append, ← split, List.reverse_reverse]

theorem eq_append_trim (cs : List Char) :
    ∃ before after, Blanks before ∧ Blanks after ∧ cs = before ++ trim cs ++ after := by
  obtain ⟨before, front, split⟩ := eq_append_trimStart cs
  obtain ⟨after, back, rest⟩ := eq_trimEnd_append (trimStart cs)
  exact ⟨before, after, front, back, by rw [trim, List.append_assoc, ← rest, ← split]⟩

/-- The first character that remains is also the first one behind the blanks in front: taking off
the back leaves a start of the text, and it does not uncover a blank. -/
theorem isTrimmed_trim (cs : List Char) : IsTrimmed (trim cs) where
  head c first := by
    obtain ⟨after, -, rest⟩ := eq_trimEnd_append (trimStart cs)
    have uncovered : (trimStart cs).head? = some c := by
      rw [rest, List.head?_append, ← trim, first, Option.some_or]
    exact isBlank_of_head?_trimStart uncovered
  last c final := by
    rw [trim, trimEnd, List.getLast?_reverse] at final
    exact isBlank_of_head?_trimStart final

/-- Blanks around a trimmed text are all that is taken off it. -/
theorem trim_append {before after : List Char} (front : Blanks before) (back : Blanks after)
    (trimmed : IsTrimmed cs) : trim (before ++ cs ++ after) = cs := by
  rw [trim, List.append_assoc, trimStart_append front]
  cases cs with
  | nil =>
    -- Nothing stands between the blanks, so the front takes them all.
    have none : trimStart ([] ++ after) = [] := List.dropWhile_eq_nil_iff.mpr back
    rw [none]
    rfl
  | cons c cs =>
    have bare : ∀ d, (c :: cs ++ after).head? = some d → isBlank d = false := trimmed.head
    rw [trimStart_eq_self bare, trimEnd, List.reverse_append, trimStart_append back.reverse,
      trimStart_eq_self trimmed.reverse.head, List.reverse_reverse]

end Courier.Text
