import Courier.Wire.Fault
import Courier.Wire.Input

/-!
# Readers

A `Reader α` takes bytes from the front of its input. What it leaves is never more than what it was
given: the bound is part of the type, so a loop that reads until its input is used up ends.
-/

namespace Courier.Wire

/-- Reads an `α` from the front of an input and hands back the rest. -/
structure Reader (α : Type) where
  run : Input → Except Fault (α × Input)
  size_le : ∀ {i a rest}, run i = .ok (a, rest) → rest.size ≤ i.size

namespace Reader

variable {α β : Type}

/-- Reads from bytes. -/
def read (r : Reader α) (bs : Bytes) : Except Fault (α × Bytes) :=
  (r.run (.ofBytes bs)).map fun (a, rest) => (a, rest.bytes)

/-- Reads nothing. -/
def pure (a : α) : Reader α where
  run i := .ok (a, i)
  size_le h := by cases h; exact Nat.le_refl _

/-- Refuses every input. -/
def fail (c : Cause) : Reader α where
  run _ := .error { cause := c }
  size_le h := by cases h

/-- Reads with `r`, then with the reader that its result chooses. -/
def bind (r : Reader α) (next : α → Reader β) : Reader β where
  run i :=
    match r.run i with
    | .error e => .error e
    | .ok (a, rest) => (next a).run rest
  size_le {i b rest} h := by
    cases first : r.run i with
    | error e => simp [first] at h
    | ok out =>
      obtain ⟨a, middle⟩ := out
      simp only [first] at h
      exact Nat.le_trans ((next a).size_le h) (r.size_le first)

instance : Monad Reader where
  pure := Reader.pure
  bind := Reader.bind

@[simp] theorem run_pure (a : α) (i : Input) : (Pure.pure a : Reader α).run i = .ok (a, i) := rfl

@[simp] theorem run_fail (c : Cause) (i : Input) :
    (fail c : Reader α).run i = .error { cause := c } := rfl

theorem run_bind (r : Reader α) (next : α → Reader β) (i : Input) :
    (r >>= next).run i =
      match r.run i with
      | .error e => .error e
      | .ok (a, rest) => (next a).run rest := rfl

/-- Reads with `r`; a fault names the field `place` as the one around it. -/
def within (place : String) (r : Reader α) : Reader α where
  run i :=
    match r.run i with
    | .error e => .error (e.within place)
    | .ok out => .ok out
  size_le {i a rest} h := by
    cases inner : r.run i with
    | error e => simp [inner] at h
    | ok out =>
      simp only [inner] at h
      cases h
      exact r.size_le inner

/-- The next `n` bytes. -/
def take (n : Nat) : Reader Bytes where
  run i :=
    match i.split? n with
    | none => .error { cause := .bufferUnderflow }
    | some out => .ok out
  size_le {i a rest} h := by
    cases parts : i.split? n with
    | none => simp [parts] at h
    | some out =>
      simp only [parts] at h
      cases h
      exact Input.size_le_of_split? parts

theorem run_take (n : Nat) (bs : Bytes) :
    (take n).run (.ofBytes bs) =
      if n ≤ bs.length then .ok (bs.take n, .ofBytes (bs.drop n))
      else .error { cause := .bufferUnderflow } := by
  simp only [take, Input.split?_ofBytes]
  by_cases h : n ≤ bs.length
  · simp only [if_pos h]
  · simp only [if_neg h]

/-- Passes over the next `n` bytes. -/
def skip (n : Nat) : Reader Unit := do
  let _ ← take n
  return ()

end Reader

end Courier.Wire
