import Courier.Bytes

/-!
# Bytes that may not be a text

`Utf8.pieces` takes any byte string apart into characters and broken runs. A broken run is the
longest start of a character that the bytes do not complete, or one byte that starts none.
`lossy` shows each run as U+FFFD, and `fault?` tells where the first one stands.
-/

namespace Courier.Text.Utf8

/-- A part of a byte string. -/
inductive Piece where
  | char (c : Char)
  /-- Bytes that no continuation could make a character, or that another byte interrupts. -/
  | broken (run : Bytes)
  /-- The start of a character at the very end. -/
  | cut (run : Bytes)
  deriving DecidableEq

/-- What a first byte announces: the bits of the code point in it, how many bytes follow and
between which bounds the next one lies. -/
structure Lead where
  bits : Nat
  following : Nat
  low : UInt8 := 0x80
  high : UInt8 := 0xBF

/-- The announcement of a byte that starts a character of several bytes. The bounds leave out
overlong forms, surrogates and what lies beyond the last code point. -/
def lead? (b : UInt8) : Option Lead :=
  if 0xC2 ≤ b && b ≤ 0xDF then some { bits := b.toNat - 0xC0, following := 1 }
  else if b == 0xE0 then some { bits := 0, following := 2, low := 0xA0 }
  else if b == 0xED then some { bits := 0xD, following := 2, high := 0x9F }
  else if 0xE1 ≤ b && b ≤ 0xEF then some { bits := b.toNat - 0xE0, following := 2 }
  else if b == 0xF0 then some { bits := 0, following := 3, low := 0x90 }
  else if b == 0xF4 then some { bits := 4, following := 3, high := 0x8F }
  else if 0xF1 ≤ b && b ≤ 0xF3 then some { bits := b.toNat - 0xF0, following := 3 }
  else none

/-- Reads on in a character of which `run` has been read. -/
def continued (run : Bytes) : Lead → Bytes → Piece × Bytes
  | { bits, following := 0, .. }, bs => (.char (Char.ofNat bits), bs)
  | { following := _ + 1, .. }, [] => (.cut run, [])
  | { bits, following := n + 1, low, high }, b :: bs =>
    if low ≤ b && b ≤ high then
      continued (run ++ [b]) { bits := bits * 64 + (b.toNat - 0x80), following := n } bs
    else (.broken run, b :: bs)
termination_by _ bs => bs

/-- The first piece of a byte string that starts with `b`, and what follows it. -/
def next (b : UInt8) (bs : Bytes) : Piece × Bytes :=
  if b < 0x80 then (.char (Char.ofNat b.toNat), bs)
  else
    match lead? b with
    | none => (.broken [b], bs)
    | some lead => continued [b] lead bs

theorem length_le_of_continued (run : Bytes) (lead : Lead) (bs : Bytes) :
    (continued run lead bs).2.length ≤ bs.length := by
  fun_induction continued run lead bs with
  | case1 => simp
  | case2 => simp
  | case3 => simp_all; omega
  | case4 => simp

theorem length_le_of_next (b : UInt8) (bs : Bytes) : (next b bs).2.length ≤ bs.length := by
  unfold next
  split
  · simp
  · split
    · simp
    · exact length_le_of_continued ..

/-- The pieces of a byte string, put in front of the pieces already found, last first. -/
def piecesFrom (found : List Piece) : Bytes → List Piece
  | [] => found.reverse
  | b :: bs =>
    have := length_le_of_next b bs
    piecesFrom ((next b bs).1 :: found) (next b bs).2
termination_by bs => bs.length
decreasing_by simp; omega

/-- The pieces of a byte string. -/
def pieces (bs : Bytes) : List Piece := piecesFrom [] bs

namespace Piece

/-- How a piece is shown. -/
def shown : Piece → Char
  | .char c => c
  | .broken _ | .cut _ => '\uFFFD'

/-- The character that a piece is, if it is one. -/
def char? : Piece → Option Char
  | .char c => some c
  | .broken _ | .cut _ => none

end Piece

/-- The pieces of a text. -/
def ofText (s : String) : List Piece := s.toList.map .char

/-- The text that the pieces spell, if none is broken. -/
def text? (ps : List Piece) : Option String := (ps.mapM Piece.char?).map String.ofList

/-- The text that the pieces show. -/
def lossy (ps : List Piece) : String := String.ofList (ps.map Piece.shown)

@[simp] theorem text?_ofText (s : String) : text? (ofText s) = some s := by
  have all : ∀ cs : List Char, (cs.map Piece.char).mapM Piece.char? = some cs := by
    intro cs
    induction cs with
    | nil => rfl
    | cons c cs ih => simp [ih, Piece.char?]
  simp [text?, ofText, all]

/-! ## The first fault -/

/-- Where a byte string stops being a text. -/
structure Fault where
  offset : Nat
  /-- The length of the broken run; none when the bytes end within a character. -/
  width : Option Nat
  deriving DecidableEq

def faultFrom (offset : Nat) : List Piece → Option Fault
  | [] => none
  | .char c :: ps => faultFrom (offset + c.utf8Size) ps
  | .broken run :: _ => some { offset, width := some run.length }
  | .cut _ :: _ => some { offset, width := none }

/-- The first fault of a byte string. -/
def fault? (bs : Bytes) : Option Fault := faultFrom 0 (pieces bs)

def Fault.message (f : Fault) : String :=
  match f.width with
  | some n =>
    "invalid utf-8 sequence of " ++ toString n ++ " bytes from index " ++ toString f.offset
  | none => "incomplete utf-8 byte sequence from index " ++ toString f.offset

end Courier.Text.Utf8
