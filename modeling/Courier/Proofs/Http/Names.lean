import Mathlib
import Courier.Http.Headers
import Courier.Proofs.Http.Values

/-!
# Names in any case

Header names are kept in lower case, and a key is judged by its characters and its length. Neither
depends on the case of letters, so a key is a name exactly if it is one in lower case, and the same
one (`headerName?_map_toLower`).
-/

namespace Courier

namespace Http

variable {c : Char}

/-- The characters of names are in ASCII. -/
theorem lt_of_isNameChar (allowed : isNameChar c = true) : c.toNat < 0x80 := by
  have marks : "!#$%&'*+-.^_`|~".toList.all (fun m => decide (m.toNat < 0x80)) = true := by decide
  rcases Bool.or_eq_true _ _ ▸ allowed with alphanumeric | mark
  · have code : 65 ≤ c.toNat ∧ c.toNat ≤ 90 ∨ 97 ≤ c.toNat ∧ c.toNat ≤ 122 ∨
        48 ≤ c.toNat ∧ c.toNat ≤ 57 := by
      simpa [Char.isAlphanum, Char.isAlpha, Char.isUpper, Char.isLower, Char.isDigit,
        UInt32.le_iff_toNat_le, or_assoc] using alphanumeric
    omega
  · exact of_decide_eq_true (List.all_eq_true.mp marks c (List.contains_iff_mem.mp mark))

theorem isNameChar_toLower (c : Char) : isNameChar c.toLower = isNameChar c := by
  by_cases upper : c.isUpper = true
  · have letter : c.isAlpha = true := by rw [Char.isAlpha, upper, Bool.true_or]
    rw [isNameChar, isNameChar, Char.isAlphanum, Char.isAlphanum, Char.isAlpha_toLower_eq_isAlpha,
      letter]
    rfl
  · rw [Char.toLower_eq_of_not_isUpper upper]

theorem utf8ByteSize_of_isNameChar {key : String} (allowed : key.toList.all isNameChar = true) :
    key.utf8ByteSize = key.toList.length :=
  utf8ByteSize_of_ascii fun c mem => lt_of_isNameChar (List.all_eq_true.mp allowed c mem)

/-- The case of a key does not matter. -/
theorem headerName?_map_toLower (key : String) :
    headerName? (key.map Char.toLower) = headerName? key := by
  have chars : (key.map Char.toLower).toList = key.toList.map Char.toLower := String.toList_map
  have allowed : (key.map Char.toLower).toList.all isNameChar = key.toList.all isNameChar := by
    rw [chars, List.all_map]
    exact List.all_congr rfl fun c => isNameChar_toLower c
  have lower : (key.map Char.toLower).map Char.toLower = key.map Char.toLower := by
    rw [← String.toList_inj, String.toList_map, chars, List.map_map]
    exact List.map_congr_left fun c _ => Char.toLower_toLower_eq_toLower c
  unfold headerName?
  rw [allowed, lower]
  cases names : key.toList.all isNameChar with
  | false => simp
  | true =>
    -- Only here do the lengths agree: a character outside ASCII has more bytes than one.
    have size : (key.map Char.toLower).utf8ByteSize = key.utf8ByteSize := by
      rw [utf8ByteSize_of_isNameChar (allowed.trans names), utf8ByteSize_of_isNameChar names, chars,
        List.length_map]
    rw [size]

end Http

theorem metadataName?_map_toLower (key : String) :
    metadataName? (key.map Char.toLower) = metadataName? key := by
  rw [metadataName?, Http.headerName?_map_toLower, metadataName?]

end Courier
