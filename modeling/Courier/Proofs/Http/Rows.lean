import Courier.Http.Index
import Mathlib.Tactic.ByContra
import Mathlib.Tactic.SplitIfs

/-!
# Rows in the index of a header map

Names with the hash zero fill a table from its first slot on, and those with the hash one stand behind
them. In such a table every step of an insertion can be said in terms of two numbers: where a hash goes
in (`IsRow.entry_zero`, `IsRow.entry_one`), what it moves (`IsRow.push_zero`), and what a larger table
looks like (`IsRow.grow`). A zero that has to move a one far from the front raises the alarm
(`add_zero`).
-/

namespace Courier.Http

namespace Slots

variable {slots : Slots} {zeros ones : Nat}

/-- The first slots hold the hash zero, the next ones the hash one, and the others nothing. -/
def IsRow (slots : Slots) (zeros ones : Nat) : Prop :=
  ∀ p, slots.getD p none =
    if p < zeros then some 0 else if p < zeros + ones then some 1 else none

theorem getD_setIfInBounds {p : Nat} (inside : p < slots.size) (slot : Option Nat) (q : Nat) :
    Array.getD (slots.setIfInBounds p slot) q none = if q = p then slot else slots.getD q none := by
  rw [Array.getD_eq_getD_getElem?, Array.getD_eq_getD_getElem?, Array.getElem?_setIfInBounds]
  by_cases same : q = p
  · rw [if_pos same.symm, if_pos same, if_pos inside]
    rfl
  · rw [if_neg (Ne.symm same), if_neg same]

theorem isRow_replicate (n : Nat) : IsRow (Array.replicate n none) 0 0 := by
  intro p
  rw [Array.getD_eq_getD_getElem?, Array.getElem?_replicate]
  split <;> rfl

/-- A table has all of its row. -/
theorem IsRow.le_size (row : slots.IsRow zeros ones) : zeros + ones ≤ slots.size := by
  by_contra beyond
  have last := row (zeros + ones - 1)
  rw [Array.getD_eq_getD_getElem?, Array.getElem?_eq_none (by omega)] at last
  split at last
  · cases last
  · split at last
    · cases last
    · omega

/-- One more zero in front of nothing, or in the place of the one. -/
theorem IsRow.set_zero (row : slots.IsRow zeros ones) (alone : ones ≤ 1)
    (free : zeros < slots.size) :
    IsRow (slots.setIfInBounds zeros (some 0)) (zeros + 1) 0 := by
  intro p
  rw [getD_setIfInBounds free, row p]
  split_ifs <;> first | rfl | omega

/-- One more one behind all others. -/
theorem IsRow.set_one (row : slots.IsRow zeros ones) (free : zeros + ones < slots.size) :
    IsRow (slots.setIfInBounds (zeros + ones) (some 1)) zeros (ones + 1) := by
  intro p
  rw [getD_setIfInBounds free, row p]
  split_ifs <;> first | rfl | omega

/-! ## Places -/

theorem behind_of_lt {hash d : Nat} (inside : hash + d < slots.size) :
    slots.behind hash d = hash + d := Nat.mod_eq_of_lt inside

/-- How far a small hash is from the slot that it asks for. -/
theorem distance_of_le {hash p : Nat} (le : hash ≤ p) (inside : p < slots.size) :
    slots.distance hash p = p - hash := by
  rw [distance, Nat.mod_eq_of_lt (Nat.lt_of_le_of_lt le inside),
    show p + slots.size - hash = p - hash + slots.size by omega, Nat.add_mod_right,
    Nat.mod_eq_of_lt (by omega)]

/-- A zero goes in behind the other zeros, in front of a one that is nearer to its slot. The search
begins anywhere among the zeros. -/
theorem IsRow.entry_zero (row : slots.IsRow zeros ones) (led : ones = 0 ∨ 0 < zeros)
    (free : zeros < slots.size) {fuel d : Nat} (before : d ≤ zeros) (enough : zeros < d + fuel) :
    slots.entry 0 fuel d = zeros := by
  induction fuel generalizing d with
  | zero => omega
  | succ fuel ih =>
    have place : slots.behind 0 d = d := (behind_of_lt (by omega)).trans (Nat.zero_add d)
    unfold entry
    simp only [place, row d]
    rcases Nat.lt_or_eq_of_le before with among | rfl
    · have own : slots.distance 0 d = d := distance_of_le (Nat.zero_le d) (by omega)
      rw [if_pos among]
      simp only [own, Nat.lt_irrefl, if_false]
      exact ih among (by omega)
    · rw [if_neg (Nat.lt_irrefl d)]
      split_ifs with one
      · simp only [distance_of_le (by omega : 1 ≤ d) free]
        exact if_pos (by omega)
      · rfl

/-- A one goes in behind all zeros. -/
theorem IsRow.entry_one (row : slots.IsRow zeros 0) (free : zeros < slots.size) {fuel d : Nat}
    (before : d + 1 ≤ zeros) (enough : zeros < d + 1 + fuel) :
    slots.entry 1 fuel d + 1 = zeros := by
  induction fuel generalizing d with
  | zero => omega
  | succ fuel ih =>
    have place : slots.behind 1 d = d + 1 := (behind_of_lt (by omega)).trans (Nat.add_comm 1 d)
    unfold entry
    simp only [place, row (d + 1)]
    rcases Nat.lt_or_eq_of_le before with among | rfl
    · have own : slots.distance 0 (d + 1) = d + 1 := distance_of_le (Nat.zero_le _) (by omega)
      rw [if_pos among]
      simp only [own]
      rw [if_neg (by omega)]
      exact ih among (by omega)
    · simp

/-- The first slot that is not taken is behind the row. -/
theorem IsRow.gap_eq (row : slots.IsRow zeros ones) (free : zeros + ones < slots.size)
    {hash fuel d : Nat} (before : hash + d ≤ zeros + ones)
    (enough : zeros + ones < hash + d + fuel) :
    hash + slots.gap hash fuel d = zeros + ones := by
  induction fuel generalizing d with
  | zero => omega
  | succ fuel ih =>
    unfold gap
    rw [behind_of_lt (by omega), row (hash + d)]
    rcases Nat.lt_or_eq_of_le before with among | last
    · split_ifs with zero
      · exact ih (by omega) (by omega)
      · exact ih (by omega) (by omega)
    · rw [if_neg (by omega), if_neg (by omega)]
      exact last

/-! ## Moving -/

theorem push_empty {p hash fuel : Nat} (empty : slots.getD p none = none) :
    slots.push p hash (fuel + 1) = (slots.setIfInBounds p (some hash), 0) := by
  rw [push]
  simp only [empty]

/-- A zero moves the one behind it, if there is one. -/
theorem IsRow.push_zero (row : slots.IsRow zeros ones) (alone : ones ≤ 1)
    (free : zeros + ones < slots.size) (fuel : Nat) :
    ∃ next : Slots, slots.push zeros 0 (fuel + 2) = (next, ones) ∧ next.IsRow (zeros + 1) ones := by
  rcases Nat.le_one_iff_eq_zero_or_eq_one.mp alone with rfl | rfl
  · have empty : slots.getD zeros none = none := by
      rw [row]
      simp
    exact ⟨_, push_empty empty, row.set_zero alone free⟩
  · have one : slots.getD zeros none = some 1 := by
      rw [row]
      simp
    let pushed : Slots := slots.setIfInBounds zeros (some 0)
    have size : pushed.size = slots.size := Array.size_setIfInBounds
    have row' : pushed.IsRow (zeros + 1) 0 := row.set_zero alone (by omega)
    have empty : pushed.getD (zeros + 1) none = none := by
      rw [row']
      simp
    refine ⟨pushed.setIfInBounds (zeros + 1) (some 1), ?_, row'.set_one (by omega)⟩
    rw [push]
    simp only [one, Nat.mod_eq_of_lt free]
    rw [push_empty empty]

/-! ## Growing -/

theorem IsRow.takeOver_zero (row : slots.IsRow zeros 0) (free : zeros < slots.size) :
    (slots.takeOver (some 0)).IsRow (zeros + 1) 0 := by
  have last : 0 + slots.gap 0 slots.size 0 = zeros :=
    row.gap_eq free (Nat.zero_le _) (by omega)
  rw [takeOver, behind_of_lt (by omega), last]
  exact row.set_zero (Nat.zero_le 1) free

theorem IsRow.takeOver_one (row : slots.IsRow zeros ones) (led : 0 < zeros)
    (free : zeros + ones < slots.size) : (slots.takeOver (some 1)).IsRow zeros (ones + 1) := by
  have last : 1 + slots.gap 1 slots.size 0 = zeros + ones := row.gap_eq free (by omega) (by omega)
  rw [takeOver, behind_of_lt (by omega), last]
  exact row.set_one free

/-- Zeros are taken over one after the other. -/
theorem IsRow.foldl_zeros (row : slots.IsRow zeros 0) {more : Nat}
    (free : zeros + more ≤ slots.size) :
    ((List.replicate more (some 0)).foldl takeOver slots).IsRow (zeros + more) 0 := by
  induction more generalizing slots zeros with
  | zero => exact row
  | succ more ih =>
    have size := slots.size_takeOver (some 0)
    have grown := ih (row.takeOver_zero (by omega)) (by omega)
    rw [Nat.add_right_comm, Nat.add_assoc] at grown
    exact grown

theorem foldl_empty (n : Nat) : (List.replicate n none).foldl takeOver slots = slots := by
  induction n with
  | zero => rfl
  | succ n ih => exact ih

/-- The slots of a row, written out. -/
theorem IsRow.toList_eq (row : slots.IsRow zeros ones) :
    slots.toList = List.replicate zeros (some 0) ++ List.replicate ones (some 1) ++
      List.replicate (slots.size - (zeros + ones)) none := by
  have fits := row.le_size
  refine List.ext_getElem ?_ ?_
  · simp
    omega
  · intro p inside _
    have there := row p
    rw [Array.length_toList] at inside
    rw [Array.getD_eq_getD_getElem?, Array.getElem?_eq_getElem inside, Option.getD_some] at there
    rw [Array.getElem_toList, there]
    simp only [List.getElem_append, List.length_append, List.length_replicate,
      List.getElem_replicate]
    split_ifs <;> first | rfl | omega

/-- A larger table has the same row. -/
theorem IsRow.grow (row : slots.IsRow zeros ones) (led : 0 < zeros) (alone : ones ≤ 1) :
    slots.grow.IsRow zeros ones := by
  have fits := row.le_size
  have ideal : slots.isIdeal 0 = true := by
    have there : slots.getD 0 none = some 0 := by rw [row, if_pos led]
    unfold isIdeal
    simp only [there, distance_of_le (Nat.le_refl 0) (by omega : 0 < slots.size)]
    rfl
  have first : (List.range slots.size).find? slots.isIdeal = some 0 := by
    obtain ⟨n, size⟩ : ∃ n, slots.size = n + 1 := ⟨slots.size - 1, by omega⟩
    rw [size, List.range_succ_eq_map, List.find?_cons_of_pos ideal]
  have wide : (Array.replicate (2 * slots.size) none : Slots).size = 2 * slots.size :=
    Array.size_replicate
  have fresh := isRow_replicate (2 * slots.size)
  have zeroed := fresh.foldl_zeros (by omega : 0 + zeros ≤ _)
  have size := size_foldl_takeOver (Array.replicate (2 * slots.size) none)
    (List.replicate zeros (some 0))
  rw [Nat.zero_add] at zeroed
  rw [Slots.grow, first]
  simp only [Option.getD_some, List.drop_zero, List.take_zero, List.append_nil]
  rw [row.toList_eq, List.foldl_append, List.foldl_append, foldl_empty]
  rcases Nat.le_one_iff_eq_zero_or_eq_one.mp alone with rfl | rfl
  · exact zeroed
  · exact zeroed.takeOver_one led (by omega)

end Slots

/-! ## Insertions -/

namespace Index

variable {i : Index} {zeros ones : Nat}

/-- A zero goes in behind the zeros. Far from the front, it raises the alarm if it moves a one. -/
theorem add_zero (row : i.slots.IsRow zeros ones) (led : ones = 0 ∨ 0 < zeros) (alone : ones ≤ 1)
    (free : zeros + ones + 1 < i.slots.size) (known : i.danger ≠ .red) :
    (i.add 0 false).slots.IsRow (zeros + 1) ones ∧
      (i.add 0 false).danger =
        if farDistance ≤ zeros ∧ ones ≠ 0 then .yellow else i.danger := by
  have entry : i.slots.entry 0 i.slots.size 0 = zeros :=
    row.entry_zero led (by omega) (Nat.zero_le zeros) (by omega)
  obtain ⟨fuel, size⟩ : ∃ fuel, i.slots.size = fuel + 2 := ⟨i.slots.size - 2, by omega⟩
  obtain ⟨next, pushed, grown⟩ := row.push_zero alone (by omega) fuel
  have place : i.slots.behind 0 zeros = zeros :=
    (Slots.behind_of_lt (by omega)).trans (Nat.zero_add zeros)
  have few : ¬manyMoved ≤ ones := by
    unfold manyMoved
    omega
  rw [← size] at pushed
  unfold add
  rw [if_neg known]
  simp only [entry, place, pushed]
  refine ⟨grown, ?_⟩
  simp [few]

/-- A one goes in behind the row and moves nothing. -/
theorem add_one (row : i.slots.IsRow zeros 0) (led : 0 < zeros) (free : zeros + 1 < i.slots.size)
    (known : i.danger ≠ .red) :
    (i.add 1 false).slots.IsRow zeros 1 ∧ (i.add 1 false).danger = i.danger := by
  have entry : i.slots.entry 1 i.slots.size 0 + 1 = zeros :=
    row.entry_one (by omega) (by omega) (by omega)
  obtain ⟨fuel, size⟩ : ∃ fuel, i.slots.size = fuel + 1 := ⟨i.slots.size - 1, by omega⟩
  have place : i.slots.behind 1 (i.slots.entry 1 i.slots.size 0) = zeros := by
    rw [Slots.behind_of_lt (by omega)]
    omega
  have empty : i.slots.getD zeros none = none := by
    rw [row]
    simp
  have pushed : i.slots.push zeros 1 i.slots.size =
      (i.slots.setIfInBounds zeros (some 1), 0) := by
    rw [size]
    exact Slots.push_empty empty
  unfold add
  rw [if_neg known]
  simp only [place, pushed]
  exact ⟨row.set_one (by omega), by simp [manyMoved]⟩

end Index

end Courier.Http
