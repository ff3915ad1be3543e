/-!
# Texts on a terminal

A styled text is a row of spans, each with the terminal styles it is shown in. `Styled.plain` leaves
the styles out and `Styled.colored` writes them as escape sequences around the span.

Some characters of a text are commands to a terminal: controls, and sequences that an escape
starts. `Terminal.visible` keeps what a terminal shows. A sequence ends with its final character, so
one that is left open swallows what follows it, up to the next escape.
-/

namespace Courier.Text

/-- A part of a text. Each style is the inside of one escape sequence. -/
structure Span where
  text : String
  styles : List String := []
  deriving DecidableEq

/-- A text in spans. -/
abbrev Styled := List Span

namespace Span

/-- The escape sequence of a style. -/
def sequence (style : String) : String := "\x1b[" ++ style ++ "m"

/-- A span with its escape sequences. An unstyled span has none. -/
def colored (s : Span) : String :=
  if s.styles = [] then s.text
  else String.join (s.styles.map sequence) ++ s.text ++ sequence "0"

end Span

namespace Styled

/-- An unstyled text. -/
def ofText (text : String) : Styled := [{ text }]

/-- The text alone. -/
def plain (s : Styled) : String := String.join (s.map (·.text))

/-- The text with escape sequences. -/
def colored (s : Styled) : String := String.join (s.map Span.colored)

/-- The text, with escape sequences if asked for. -/
def render (s : Styled) (color : Bool) : String := if color then s.colored else s.plain

end Styled

end Courier.Text

namespace Courier.Text.Terminal

/-- Where a reader of a text is. -/
inductive Mode where
  /-- Outside of all sequences. -/
  | ground
  /-- Behind an escape. -/
  | escape
  /-- Behind an escape and a character that announces another one. -/
  | designation
  /-- In a control sequence, which sets colours, moves the cursor and the like. -/
  | control
  /-- In the front of a device sequence. -/
  | device
  /-- In the data of a device sequence. -/
  | deviceData
  /-- In a command to the system around the terminal, such as a title. -/
  | command
  /-- In a message that no one reads. -/
  | message
  deriving DecidableEq

/-- The blank controls: tab, line feed, form feed and carriage return. -/
def isBlankControl (c : Char) : Bool := c == '\t' || c == '\n' || c == '\x0c' || c == '\r'

/-- Whether the byte that ends a string is among the bytes of a character. -/
def holdsTerminator (c : Char) : Bool := (String.singleton c).toUTF8.data.toList.contains 0x9C

namespace Mode

/-- Whether a character is shown. Blank controls are obeyed at once, also within the sequences
that have no data. -/
def shows (m : Mode) (c : Char) : Bool :=
  match m with
  | ground => isBlankControl c || (0x20 ≤ c.toNat && c.toNat != 0x7F)
  | escape | designation | control => isBlankControl c
  | device | deviceData | command | message => false

/-- The mode after the character behind an escape. -/
def afterEscape (c : Char) : Mode :=
  if c = '[' then control
  else if c = ']' then command
  else if c = 'P' then device
  else if c = 'X' ∨ c = '^' ∨ c = '_' then message
  else if 0x20 ≤ c.toNat ∧ c.toNat ≤ 0x2F then designation
  else if 0x30 ≤ c.toNat ∧ c.toNat ≤ 0x7E then ground
  else escape

/-- The mode after a character that is not shown. -/
def next (m : Mode) (c : Char) : Mode :=
  if c = '\x1b' then escape
  else if c = '\x18' ∨ c = '\x1a' then ground
  else
    match m with
    | ground => ground
    | escape => afterEscape c
    | designation => if 0x30 ≤ c.toNat ∧ c.toNat ≤ 0x7E then ground else designation
    | control => if 0x40 ≤ c.toNat ∧ c.toNat ≤ 0x7E then ground else control
    | device => if 0x40 ≤ c.toNat ∧ c.toNat ≤ 0x7E then deviceData else device
    | deviceData => if holdsTerminator c then ground else deviceData
    | command => if c = '\x07' then ground else command
    | message => if holdsTerminator c then ground else message

end Mode

/-- What a blank control does to the sequence that it stands in. -/
inductive Interruption where
  | ends
  /-- The sequence goes on with the next character that is not shown. -/
  | pauses
  deriving DecidableEq

/-- A reader of a text. -/
structure Reader where
  mode : Mode := .ground
  /-- A blank control stands in the sequence, and only shown characters since then. -/
  paused : Bool := false
  /-- What has been shown, last character first. -/
  shown : List Char := []

namespace Reader

/-- The mode that decides what is shown. -/
def showing (r : Reader) : Mode := if r.paused then .ground else r.mode

/-- The reader after one more character. Beyond ASCII a shown character ends every sequence. -/
def step (i : Interruption) (r : Reader) (c : Char) : Reader :=
  if r.showing.shows c then
    if i = .pauses ∧ c.toNat < 0x80 then { r with paused := true, shown := c :: r.shown }
    else { shown := c :: r.shown }
  else { r with mode := r.mode.next c, paused := false }

end Reader

/-- The characters of a text that a terminal shows. -/
def visible (i : Interruption) (s : String) : String :=
  String.ofList (s.toList.foldl (Reader.step i) {}).shown.reverse

end Courier.Text.Terminal
