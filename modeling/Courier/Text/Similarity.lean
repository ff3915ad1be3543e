/-!
# Similar words

The Jaro similarity of two words: characters match when they are equal and not too far apart, and
the measure weighs how many match on either side and how many of those are out of order. Words
above a threshold count as similar.
-/

namespace Courier.Text

/-- Marks the first unmarked `c` at a position from `low` up to `high`, counting from `index`. -/
def markFirst (c : Char) (low high index : Nat) : List (Char × Bool) → Option (List (Char × Bool))
  | [] => none
  | (d, marked) :: rest =>
    if high ≤ index then none
    else if low ≤ index && d == c && !marked then some ((d, true) :: rest)
    else (markFirst c low high (index + 1) rest).map ((d, marked) :: ·)

/-- Matches the characters of a word from position `index` on: those that found a partner, in
order, and the other word with its partners marked. -/
def matchChars (range index : Nat) (other : List (Char × Bool)) :
    List Char → List Char × List (Char × Bool)
  | [] => ([], other)
  | c :: cs =>
    match markFirst c (index - range) (index + range + 1) 0 other with
    | none => matchChars range (index + 1) other cs
    | some other =>
      let (found, other) := matchChars range (index + 1) other cs
      (c :: found, other)

/-- The Jaro similarity of two words. -/
def similarity (a b : String) : Float :=
  let m := a.length
  let n := b.length
  let (found, marked) :=
    matchChars (max m n / 2 - 1) 0 (b.toList.map fun c => (c, false)) a.toList
  let partners := (marked.filter (·.2)).map (·.1)
  let k := found.length
  let crossed := ((found.zip partners).filter fun (c, d) => c != d).length / 2
  if m = 0 ∧ n = 0 then 1
  else if k = 0 then 0
  else
    (k.toFloat / m.toFloat + k.toFloat / n.toFloat + (k - crossed).toFloat / k.toFloat) / 3

/-- The words of a list that are similar to `word`, least similar first. -/
def similarWords (word : String) (words : List String) : List String :=
  let scored := words.map fun w => (similarity word w, w)
  let near := scored.filter fun (score, _) => score > 0.7
  (near.mergeSort fun a b => a.1 ≤ b.1).map (·.2)

/-- The most similar word of a list, if any is similar. -/
def mostSimilar? (word : String) (words : List String) : Option String :=
  (similarWords word words).getLast?

end Courier.Text
