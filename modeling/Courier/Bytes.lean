/-!
# Bytes and texts

A byte string is a list of bytes. `utf8` writes a text as bytes and `Bytes.text?` reads it back
(`Bytes.text?_utf8`); it reads nothing else as that text (`Bytes.utf8_of_text?`).
-/

namespace Courier

/-- A byte string, first byte first. -/
abbrev Bytes := List UInt8

/-- The bytes of a text in UTF-8. -/
def utf8 (s : String) : Bytes := s.toUTF8.data.toList

/-- The text that the bytes spell in UTF-8, if they spell one. -/
def Bytes.text? (bs : Bytes) : Option String := String.fromUTF8? ⟨bs.toArray⟩

/-- Whether there are at least `n` bytes. No more of them are looked at. -/
def Bytes.atLeast : (n : Nat) → Bytes → Bool
  | 0, _ => true
  | _ + 1, [] => false
  | n + 1, _ :: bs => atLeast n bs

theorem Bytes.atLeast_iff {n : Nat} {bs : Bytes} : bs.atLeast n = true ↔ n ≤ bs.length := by
  induction n generalizing bs with
  | zero => simp [atLeast]
  | succ n ih =>
    cases bs with
    | nil => simp [atLeast]
    | cons b bs => simp [atLeast, ih]

@[simp] theorem Bytes.text?_utf8 (s : String) : Bytes.text? (utf8 s) = some s := by
  simp [Bytes.text?, utf8, String.fromUTF8?]
  exact ⟨s.isValidUTF8, rfl⟩

theorem Bytes.utf8_of_text? {bs : Bytes} {s : String} (h : bs.text? = some s) : utf8 s = bs := by
  simp only [Bytes.text?, String.fromUTF8?] at h
  split at h
  · cases h
    simp [utf8, String.fromUTF8]
  · cases h

end Courier
