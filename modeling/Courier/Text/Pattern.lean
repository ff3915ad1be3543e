import Courier.Text.Characters
import Courier.Text.Pattern.CharacterClass

/-!
# Patterns

A pattern describes texts, with groups, classes, choices and repetitions. Only its form matters
here: `isPattern` says whether a text is a pattern. It is read from the front; `Scan` holds what is
open. A repetition has no count in braces, and `nestingLimit` bounds the nesting.
-/

namespace Courier.Text.Pattern

/-! ## Groups -/

/-- Whether the characters name a group. -/
def isGroupName : List Char → Bool
  | [] => false
  | c :: cs =>
    (c == '_' || isAlphabetic c) && cs.all fun c => "_.[]".toList.contains c || isAlphanumeric c

/-- How a group begins. -/
inductive Head where
  /-- A group, with its name. -/
  | group (name : Option String)
  /-- A group with flags of its own. -/
  | flagged (flags : Flags)
  /-- No group: flags for the rest of the group around. -/
  | setting (flags : Flags)

namespace Head

/-- The head of a group that has a name. -/
def named? (cs : List Char) : Option (Head × List Char) :=
  let name := cs.takeWhile (· != '>')
  match cs.dropWhile (· != '>') with
  | [] => none
  | _ :: rest => if isGroupName name then some (group (some (String.ofList name)), rest) else none

/-- The head of a group that sets flags. -/
def flagged? (f : Flags) (cs : List Char) : Option (Head × List Char) :=
  let isEnd (c : Char) : Bool := c == ':' || c == ')'
  let letters := cs.takeWhile (!isEnd ·)
  if Flags.isSetting letters then
    match cs.dropWhile (!isEnd ·) with
    | ':' :: rest => some (flagged (f.set letters), rest)
    | ')' :: rest => if letters = [] then none else some (setting (f.set letters), rest)
    | _ => none
  else none

/-- The head of a group behind its parenthesis. -/
def read? (f : Flags) (cs : List Char) : Option (Head × List Char) :=
  match f.skip cs with
  | '?' :: 'P' :: '<' :: rest => named? rest
  | '?' :: '<' :: rest => named? rest
  | '?' :: rest => flagged? f rest
  | rest => some (group none, rest)

end Head

/-! ## Rows and choices -/

/-- The elements of a row, read so far. -/
structure Row where
  elements : Siblings := {}
  /-- The depth of the last element, if there is one that can be repeated. -/
  last : Option Nat := none

namespace Row

/-- With one more element. -/
def add (r : Row) (depth : Nat) : Row :=
  { elements := r.elements.add depth, last := some depth }

/-- With flags that are set, which is an element that cannot be repeated. -/
def addSetting (r : Row) : Row := { elements := r.elements.add 0, last := none }

/-- With the last element repeated. -/
def repeated? (r : Row) : Option Row :=
  r.last.map fun depth =>
    { elements := r.elements.deepen (depth + 1), last := some (depth + 1) }

end Row

/-- A group that is open, or the whole pattern. -/
structure OpenGroup where
  /-- The flags at this place of it. -/
  flags : Flags := {}
  /-- The rows that are complete. -/
  choices : Siblings := {}
  row : Row := {}

namespace OpenGroup

/-- The group at the beginning of its next choice. -/
def choose (g : OpenGroup) : OpenGroup :=
  { g with choices := g.choices.add g.row.elements.depth, row := {} }

/-- The depth of what the group holds. -/
def depth (g : OpenGroup) : Nat := g.choose.choices.depth

/-- With one more element. -/
def add (g : OpenGroup) (depth : Nat) : OpenGroup := { g with row := g.row.add depth }

end OpenGroup

/-! ## Scanning -/

/-- What is open in a pattern, and the names that groups have. -/
structure Scan where
  inner : OpenGroup := {}
  outer : List OpenGroup := []
  classes : Option Classes := none
  names : List String := []

namespace Scan

/-- The scan with one more element. -/
def add (s : Scan) (depth : Nat) : Scan := { s with inner := s.inner.add depth }

/-- The scan behind the head of a group. -/
def enter (s : Scan) : Head → Scan
  | .group name =>
    { s with
      inner := { flags := s.inner.flags }
      outer := s.inner :: s.outer
      names := name.toList ++ s.names }
  | .flagged flags => { s with inner := { flags }, outer := s.inner :: s.outer }
  | .setting flags => { s with inner := { s.inner with flags, row := s.inner.row.addSetting } }

/-- The scan behind the end of a group. -/
def leave? (s : Scan) : Option Scan :=
  match s.outer with
  | [] => none
  | next :: outer => some { s with inner := next.add (s.inner.depth + 1), outer }

/-- The scan after a part of a class. -/
def progress (s : Scan) : ClassProgress → Scan
  | .inside classes => { s with classes := some classes }
  | .closed depth => ({ s with classes := none } : Scan).add depth

/-- The scan behind a repetition. A question mark directly behind makes it a short one. -/
def repeated? (s : Scan) (cs : List Char) : Option (Scan × List Char) :=
  s.inner.row.repeated?.map fun row =>
    ({ s with inner := { s.inner with row } },
      match cs with
      | '?' :: rest => rest
      | rest => rest)

/-- The scan after the next part outside of classes. -/
def stepOutside (s : Scan) : List Char → Option (Scan × List Char)
  | '(' :: cs => (Head.read? s.inner.flags cs).map fun (head, rest) => (s.enter head, rest)
  | ')' :: cs => s.leave?.map fun next => (next, cs)
  | '|' :: cs => some ({ s with inner := s.inner.choose }, cs)
  | '[' :: cs =>
    (Classes.enter? s.inner.flags [] cs).map fun (progress, rest) => (s.progress progress, rest)
  | '*' :: cs | '+' :: cs | '?' :: cs => s.repeated? cs
  | '{' :: _ => none
  | cs =>
    (Atom.read? s.inner.flags cs).bind fun (atom, rest) =>
      if atom.isUsable s.inner.flags then some (s.add 0, rest) else none

/-- The scan after the next part. -/
def step (s : Scan) (cs : List Char) : Option (Scan × List Char) :=
  match s.classes with
  | none => s.stepOutside cs
  | some classes =>
    (classes.step s.inner.flags cs).map fun (progress, rest) => (s.progress progress, rest)

/-- The scan at the end of a text. Every part has a character, so `fuel` parts are enough for a
text of as many. -/
def run? : (fuel : Nat) → Scan → List Char → Option Scan
  | 0, s, cs => if s.inner.flags.skip cs = [] then some s else none
  | fuel + 1, s, cs =>
    match s.inner.flags.skip cs with
    | [] => some s
    | cs => (s.step cs).bind fun (next, rest) => run? fuel next rest

/-- Whether no two groups have the same name. -/
def namesDiffer (s : Scan) : Bool :=
  let sorted := s.names.mergeSort (· ≤ ·)
  (sorted.zip (sorted.drop 1)).all fun (a, b) => a != b

/-- Whether a pattern may end here. -/
def isComplete (s : Scan) : Bool :=
  s.outer.isEmpty && s.classes.isNone && s.namesDiffer && s.inner.depth ≤ nestingLimit

end Scan

/-- Whether a text is a pattern. -/
def isPattern (s : String) : Bool := (Scan.run? s.length {} s.toList).any Scan.isComplete

end Courier.Text.Pattern
