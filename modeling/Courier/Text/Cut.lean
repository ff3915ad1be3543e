import Courier.Text.Characters

/-!
# Cuts

A text is cut between two places, each the number of bytes in front of it. A place within a
character is none to cut at: `cut` then says what it is in.
-/

namespace Courier.Text

/-- The edges of a cut. -/
inductive Edge where
  | start | stop
  deriving DecidableEq

def Edge.name : Edge → String
  | .start => "start"
  | .stop => "end"

/-- A cut through a character. -/
structure CutFault where
  edge : Edge
  place : Nat
  character : Char
  /-- The place where the character starts. -/
  first : Nat
  deriving DecidableEq

def CutFault.describe (f : CutFault) : String :=
  f.edge.name ++ " byte index " ++ toString f.place
    ++ " is not a char boundary; it is inside " ++ quotedChar f.character
    ++ " (bytes " ++ toString f.first ++ ".." ++ toString (f.first + f.character.utf8Size)
    ++ " of string)"

/-- The character that a place is within, and the place where it starts; `first` bytes stand in
front of the characters. -/
def characterAround? (place : Nat) (first : Nat) : List Char → Option (Char × Nat)
  | [] => none
  | c :: cs =>
    if place ≤ first then none
    else if place < first + c.utf8Size then some (c, first)
    else characterAround? place (first + c.utf8Size) cs

/-- The characters behind the first `n` bytes. -/
def dropBytes : (n : Nat) → List Char → List Char
  | _, [] => []
  | n, c :: cs => if n = 0 then c :: cs else dropBytes (n - c.utf8Size) cs

/-- The characters that `n` bytes hold. -/
def takeBytes : (n : Nat) → List Char → List Char
  | _, [] => []
  | n, c :: cs => if c.utf8Size ≤ n then c :: takeBytes (n - c.utf8Size) cs else []

/-- The text between two places. -/
def cut (s : String) (start stop : Nat) : Except CutFault String :=
  match characterAround? start 0 s.toList, characterAround? stop 0 s.toList with
  | some (character, first), _ => .error { edge := .start, place := start, character, first }
  | none, some (character, first) => .error { edge := .stop, place := stop, character, first }
  | none, none => .ok (String.ofList (takeBytes (stop - start) (dropBytes start s.toList)))

end Courier.Text
