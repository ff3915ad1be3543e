import Courier.Text.Pattern.Atom
import Courier.Text.Pattern.Flags

/-!
# Classes of patterns

A class stands between brackets: characters, ranges, named classes and classes, with operators
between them. `Classes.step` reads the next part of the innermost class that is open.
-/

namespace Courier.Text.Pattern

/-- A class that is open. -/
structure OpenClass where
  /-- Nothing but hyphens has been read. They, or one closing bracket, are members there. -/
  atFront : Bool := true
  /-- What has been read since the last operator. -/
  members : Siblings := {}
  /-- The depth of what stands in front of the last operator. -/
  left : Option Nat := none

namespace OpenClass

/-- With one more member. -/
def add (c : OpenClass) (depth : Nat) : OpenClass := { c with members := c.members.add depth }

/-- The depth of what has been read. -/
def depth (c : OpenClass) : Nat :=
  match c.left with
  | none => c.members.depth
  | some left => max left c.members.depth + 1

/-- The class behind an operator. -/
def operate (c : OpenClass) : OpenClass := { c with left := some c.depth, members := {} }

end OpenClass

/-! ## Named classes -/

/-- The classes that have a name. They hold characters of ASCII. -/
def classNames : List String :=
  ["alnum", "alpha", "ascii", "blank", "cntrl", "digit", "graph", "lower", "print", "punct",
    "space", "upper", "word", "xdigit"]

/-- A named class behind its first bracket: whether it is negated, and what follows it. -/
def namedClass? : List Char → Option (Bool × List Char)
  | ':' :: cs =>
    let negated := cs.head? == some '^'
    let rest := if negated then cs.drop 1 else cs
    (classNames.find? fun name => (name.toList ++ [':', ']']).isPrefixOf rest).map fun name =>
      (negated, rest.drop (name.length + 2))
  | _ => none

/-- Whether a class of members can be used. Of a pattern about bytes, the other bytes are not all
characters. -/
def isUsableClass (f : Flags) (negated : Bool) : Bool :=
  if f.unicode then !f.ignoresCase else !negated

/-! ## Members -/

/-- What follows the member that stands first: an atom, or a range between two characters. -/
def behindMember? (f : Flags) (cs : List Char) : Option (List Char) :=
  (Atom.readInClass? f cs).bind fun (low, rest) =>
    let rest := f.skip rest
    match rest with
    | '-' :: more =>
      if f.ahead? more = some ']' ∨ f.ahead? more = some '-' then
        if low.isMember f then some rest else none
      else
        (Atom.readInClass? f (f.skip more)).bind fun (high, rest) =>
          match low, high with
          | .character first _, .character last _ =>
            if first ≤ last ∧ low.isMember f ∧ high.isMember f then some rest else none
          | _, _ => none
    | _ => if low.isMember f then some rest else none

/-! ## Open classes -/

/-- The classes that are open, from the innermost. -/
structure Classes where
  inner : OpenClass := {}
  outer : List OpenClass := []

/-- What there is behind a part of a class. -/
inductive ClassProgress where
  | inside (classes : Classes)
  /-- The outermost class has been closed. -/
  | closed (depth : Nat)

namespace Classes

/-- With one more member of the innermost class. -/
def add (s : Classes) (depth : Nat) : ClassProgress :=
  .inside { s with inner := s.inner.add depth }

/-- One more class behind its bracket. -/
def enter? (f : Flags) (outer : List OpenClass) (cs : List Char) :
    Option (ClassProgress × List Char) :=
  match f.skip cs with
  | '^' :: rest => if f.unicode then some (.inside { outer }, rest) else none
  | rest => some (.inside { outer }, rest)

/-- The innermost class is closed. -/
def close (s : Classes) : ClassProgress :=
  let depth := s.inner.depth + 1
  match s.outer with
  | [] => .closed depth
  | next :: outer => .inside { inner := next.add depth, outer }

/-- The next part of a class whose front is read. -/
def stepBehindFront (f : Flags) (s : Classes) : List Char → Option (ClassProgress × List Char)
  | '[' :: cs =>
    match namedClass? cs with
    | some (negated, rest) => if isUsableClass f negated then some (s.add 0, rest) else none
    | none => enter? f (s.inner :: s.outer) cs
  | ']' :: cs => some (s.close, cs)
  | '&' :: '&' :: cs | '-' :: '-' :: cs | '~' :: '~' :: cs =>
    some (.inside { s with inner := s.inner.operate }, cs)
  | cs => (behindMember? f cs).map fun rest => (s.add 0, rest)

/-- The next part of the innermost class. -/
def step (f : Flags) (s : Classes) (cs : List Char) : Option (ClassProgress × List Char) :=
  let behind : Classes := { s with inner := { s.inner with atFront := false } }
  if s.inner.atFront then
    let literal := Atom.isMember f (.character '-' false)
    match cs with
    | '-' :: rest => if literal then some (s.add 0, rest) else none
    | ']' :: rest =>
      if s.inner.members.count = 0 then
        if literal then some (behind.add 0, rest) else none
      else behind.stepBehindFront f cs
    | _ => behind.stepBehindFront f cs
  else s.stepBehindFront f cs

end Classes

end Courier.Text.Pattern
