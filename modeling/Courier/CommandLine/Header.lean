import Courier.Text.Characters

/-!
# Headers on the command line

A header is written as a key and a value around the first colon; the blanks around either do not
count.
-/

namespace Courier.CommandLine

/-- What stands before the first colon and what stands behind it. -/
def splitColon : List Char → Option (List Char × List Char)
  | [] => none
  | c :: cs => if c = ':' then some ([], cs) else (splitColon cs).map fun (k, v) => (c :: k, v)

/-- The key and the value that a text spells. -/
def parseHeader (s : String) : Option (String × String) :=
  (splitColon s.toList).map fun (k, v) =>
    (String.ofList (Text.trim k), String.ofList (Text.trim v))

/-- What is said of a text that spells no header. -/
def headerFormat : String := "Format must be 'key:value'"

theorem splitColon_eq_some_iff {cs k v : List Char} :
    splitColon cs = some (k, v) ↔ ':' ∉ k ∧ cs = k ++ ':' :: v := by
  induction cs generalizing k with
  | nil => simp [splitColon]
  | cons c cs ih =>
    unfold splitColon
    split
    · next colon =>
      subst colon
      cases k with
      | nil => simp
      | cons d k =>
        simp only [Option.some.injEq, Prod.mk.injEq, List.cons_append, List.cons.injEq,
          List.mem_cons, not_or]
        constructor
        · rintro ⟨⟨⟩⟩
        · rintro ⟨⟨ne, _⟩, rfl, _⟩
          exact absurd rfl ne
    · next ne =>
      cases k with
      | nil => simp [Option.map_eq_some_iff, ne]
      | cons d k =>
        simp only [Option.map_eq_some_iff, Prod.mk.injEq, Prod.exists, List.cons.injEq,
          List.cons_append, List.mem_cons, not_or]
        constructor
        · rintro ⟨k', v', split, ⟨rfl, rfl⟩, rfl⟩
          obtain ⟨free, rfl⟩ := ih.1 split
          exact ⟨⟨fun h => ne h.symm, free⟩, rfl, rfl⟩
        · rintro ⟨⟨_, free⟩, rfl, rfl⟩
          exact ⟨k, v, ih.2 ⟨free, rfl⟩, ⟨rfl, rfl⟩, rfl⟩

end Courier.CommandLine
