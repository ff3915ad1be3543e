import Courier.Text.Utf8

/-!
# Arguments

An argument of the command line may hold bytes that are no text. `Argument.shape` says what it
looks like: the end of the options, a long option with or without a value, short options, or
anything else.
-/

namespace Courier.CommandLine

open Text.Utf8 (Piece)

/-- An argument, piece by piece. -/
abbrev Argument := List Piece

namespace Argument

def ofText (s : String) : Argument := Text.Utf8.ofText s

def ofBytes (bs : Bytes) : Argument := Text.Utf8.pieces bs

/-- The text of an argument, if it is one. -/
def text? (a : Argument) : Option String := Text.Utf8.text? a

/-- The argument as it is shown to the user. -/
def shown (a : Argument) : String := Text.Utf8.lossy a

/-- What stands before the first equals sign and, if there is one, what stands behind it. -/
def splitEquals : Argument → Argument × Option Argument
  | [] => ([], none)
  | p :: ps =>
    if p = .char '=' then ([], some ps)
    else
      let (name, value) := splitEquals ps
      (p :: name, value)

/-- What an argument looks like. -/
inductive Shape where
  /-- Two hyphens: no options follow. -/
  | escape
  | long (name : Argument) (value : Option Argument)
  | short (first : Piece) (rest : Argument)
  | plain

def shape : Argument → Shape
  | [.char '-', .char '-'] => .escape
  | .char '-' :: .char '-' :: rest =>
    let (name, value) := splitEquals rest
    .long name value
  | .char '-' :: first :: rest => .short first rest
  | _ => .plain

end Argument

end Courier.CommandLine
