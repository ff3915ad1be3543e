import Courier.Text.Characters

/-!
# What a part of a pattern is read under

Flags say how the rest of a group is read. They are set by letters, switched off by letters behind
a hyphen. Of the seven flags three decide which patterns there are; `Flags` keeps those.

Patterns nest: a pattern is a row of elements, a choice of rows, a repetition, a group or a class,
and each of these is one deeper than what it holds. A row or a choice of one alone is no more than
that one. `Siblings` is what stands side by side, of which the count and the deepest matter.
-/

namespace Courier.Text.Pattern

/-- How a part of a pattern is read. -/
structure Flags where
  /-- Letter case does not count (`i`). -/
  ignoresCase : Bool := false
  /-- Blanks do not count, and a number sign starts a comment (`x`). -/
  ignoresBlanks : Bool := false
  /-- The pattern is about characters and not about bytes (`u`). -/
  unicode : Bool := true
  deriving DecidableEq

namespace Flags

/-! ## Settings -/

/-- Whether the characters set flags: each flag once at most, and one behind the hyphen. -/
def isSetting (cs : List Char) : Bool :=
  cs.all ("imsUuRx-".toList.contains ·) && cs.eraseDups.length == cs.length
    && cs.getLast? != some '-'

/-- The flags with one of them switched. -/
def switch (on : Bool) (f : Flags) : Char → Flags
  | 'i' => { f with ignoresCase := on }
  | 'x' => { f with ignoresBlanks := on }
  | 'u' => { f with unicode := on }
  | _ => f

/-- The flags after a setting. -/
def set (f : Flags) (cs : List Char) : Flags :=
  (cs.dropWhile (· != '-')).foldl (switch false) ((cs.takeWhile (· != '-')).foldl (switch true) f)

/-! ## Blanks -/

/-- What follows blanks and comments. A comment goes on to the end of the line. -/
def behindBlanks (inComment : Bool) : List Char → List Char
  | [] => []
  | c :: cs =>
    if inComment then behindBlanks (c != '\n') cs
    else if c = '#' then behindBlanks true cs
    else if isBlank c then behindBlanks false cs
    else c :: cs

/-- What follows all that does not count. -/
def skip (f : Flags) (cs : List Char) : List Char :=
  if f.ignoresBlanks then behindBlanks false cs else cs

/-- The character that decides whether a hyphen makes a range: the next one that counts, where of
a comment only the number sign and blanks are passed over. -/
def ahead? (f : Flags) (cs : List Char) : Option Char :=
  if f.ignoresBlanks then
    match trimStart cs with
    | '#' :: cs => (trimStart cs).head?
    | cs => cs.head?
  else cs.head?

end Flags

/-! ## Nesting -/

/-- The nesting that a pattern may have. -/
def nestingLimit : Nat := 250

/-- Parts of a pattern that stand side by side. -/
structure Siblings where
  count : Nat := 0
  deepest : Nat := 0
  deriving DecidableEq

namespace Siblings

/-- With one more part. -/
def add (s : Siblings) (depth : Nat) : Siblings :=
  { count := s.count + 1, deepest := max s.deepest depth }

/-- With a part that has become as deep as this. -/
def deepen (s : Siblings) (depth : Nat) : Siblings := { s with deepest := max s.deepest depth }

/-- The depth of all parts together. -/
def depth (s : Siblings) : Nat := if s.count ≤ 1 then s.deepest else s.deepest + 1

end Siblings

end Courier.Text.Pattern
