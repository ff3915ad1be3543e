import Courier.Text.Numbers
import Courier.Text.Pattern.Flags

/-!
# Atoms of patterns

An atom is one character of a pattern, or a backslash with what belongs to it. Which atoms can be
used depends on the flags. There are no tables of Unicode, so a pattern about characters can
neither pass over letter case nor tell words from other texts. A pattern about bytes still has to
match whole characters, so it cannot name a single byte above ASCII.
-/

namespace Courier.Text.Pattern

inductive Atom where
  /-- A character; `asByte` if two digits in base 16 spell it. -/
  | character (c : Char) (asByte : Bool)
  /-- Any character. -/
  | any
  /-- A digit, a blank or a character of a word; with `negated` one that is not. -/
  | sort (negated : Bool)
  /-- The start or the end of a line or of the text. -/
  | place
  /-- The border of a word, or any place but one. -/
  | border
  deriving DecidableEq

namespace Atom

/-- Whether an atom can be used outside of classes. -/
def isUsable (f : Flags) : Atom → Bool
  | character c asByte => if f.unicode then !f.ignoresCase else !asByte || c.toNat < 0x80
  | any => f.unicode
  | sort negated => !f.unicode && !negated
  | place => true
  | border => !f.unicode

/-- Whether an atom can be a member of a class. -/
def isMember (f : Flags) : Atom → Bool
  | character c _ => if f.unicode then !f.ignoresCase else c.toNat < 0x80
  | sort negated => !f.unicode && !negated
  | any | place | border => false

/-! ## Reading -/

/-- Reads `count` digits in base 16 behind those that make up `n`. -/
def hex? (f : Flags) (n : Nat) : (count : Nat) → List Char → Option (Nat × List Char)
  | 0, cs => some (n, cs)
  | count + 1, cs =>
    match f.skip cs with
    | [] => none
    | c :: rest => (digit? 16 c).bind fun digit => hex? f (16 * n + digit) count rest

/-- The character whose code point has `count` digits. -/
def numbered? (f : Flags) (count : Nat) (cs : List Char) : Option (Atom × List Char) :=
  (hex? f 0 count cs).bind fun (n, rest) =>
    if n.isValidChar then some (character (Char.ofNat n) (count == 2), rest) else none

/-- The atom that a letter or a digit stands for behind a backslash. -/
def named? : Char → Option Atom
  | 'a' => some (character '\x07' false)
  | 'f' => some (character '\x0c' false)
  | 'n' => some (character '\n' false)
  | 'r' => some (character '\r' false)
  | 't' => some (character '\t' false)
  | 'v' => some (character '\x0b' false)
  | 'd' | 's' | 'w' => some (sort false)
  | 'D' | 'S' | 'W' => some (sort true)
  | 'A' | 'z' => some place
  | 'b' | 'B' | '<' | '>' => some border
  | _ => none

/-- The atom behind a backslash. Signs of ASCII stand for themselves. -/
def escaped? (f : Flags) : List Char → Option (Atom × List Char)
  | [] => none
  | 'x' :: cs => numbered? f 2 cs
  | 'u' :: cs => numbered? f 4 cs
  | 'U' :: cs => numbered? f 8 cs
  | c :: cs =>
    match named? c with
    | some atom => some (atom, cs)
    | none => if c.toNat < 0x80 ∧ !c.isAlphanum then some (character c false, cs) else none

/-- The atom that stands first outside of classes. -/
def read? (f : Flags) : List Char → Option (Atom × List Char)
  | [] => none
  | '\\' :: cs => escaped? f cs
  | '.' :: cs => some (any, cs)
  | '^' :: cs | '$' :: cs => some (place, cs)
  | c :: cs => some (character c false, cs)

/-- The atom that stands first in a class. Only the backslash has a meaning of its own there. -/
def readInClass? (f : Flags) : List Char → Option (Atom × List Char)
  | [] => none
  | '\\' :: cs => escaped? f cs
  | c :: cs => some (character c false, cs)

end Atom

end Courier.Text.Pattern
