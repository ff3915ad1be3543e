import Courier.CommandLine.Argument
import Courier.CommandLine.Fault
import Courier.Text.Similarity

/-!
# Reading the command line

`parse` reads the address and the command. A value is looked at when the next argument that means
something comes, or the end: so an unknown argument is told before the value in front of it.
-/

namespace Courier.CommandLine

/-- What the command `send` is given. -/
structure SendCommand where
  peerId : String
  data : String
  topic : Option String := none
  headers : List (String × String) := []
  timeoutMs : Option Nat := none
  deriving DecidableEq

/-- What the command line asks for. -/
structure Invocation where
  url : String
  command : SendCommand
  deriving DecidableEq

/-! ## The command `send` -/

/-- What has been set so far. -/
structure Draft where
  peerId : Option String := none
  data : Option String := none
  topic : Option String := none
  headers : List (String × String) := []
  timeoutMs : Option Nat := none
  /-- What was given, in the order in which each came first. -/
  given : List Target := []
  deriving DecidableEq

/-- What is read and not yet set. -/
inductive Pending where
  | value (target : Target) (value : Argument)
  /-- A setting that waits for its value. -/
  | awaited (setting : Setting)
  deriving DecidableEq

/-- The state of reading. -/
structure Scan where
  draft : Draft := {}
  pending : Option Pending := none
  /-- No options follow. -/
  trailing : Bool := false
  /-- The place to be filled next. -/
  slot : Option Slot := some .peerId
  deriving DecidableEq

namespace Draft

/-- Notes that a target was given. -/
def mark (d : Draft) (t : Target) : Draft :=
  { d with given := if d.given.contains t then d.given else d.given ++ [t] }

/-- Sets a target to a text. -/
def store (d : Draft) (t : Target) (s : String) : Except Fault Draft :=
  match t with
  | .slot .peerId => .ok { d with peerId := some s }
  | .slot .data => .ok { d with data := some s }
  | .setting .topic => .ok { d with topic := some s }
  | .setting .header =>
    match parseHeader s with
    | some header => .ok { d with headers := d.headers ++ [header] }
    | none => .error (.invalidValue s .header .header)
  | .setting .timeout =>
    match Text.Decimal.read s with
    | .ok n => .ok { d with timeoutMs := some n }
    | .error fault => .error (.invalidValue s .timeout (.number fault))

/-- The setting that may not be given again, if the target is one. -/
def repeated? (d : Draft) : Target → Option Setting
  | .slot _ => none
  | .setting s => if !s.repeats && d.given.contains (.setting s) then some s else none

/-- Sets a target to an argument. With a fault comes what is set nevertheless. -/
def assign (d : Draft) (t : Target) (value : Argument) : Draft × Option Fault :=
  match d.repeated? t with
  | some s => ({ d with given := d.given.erase t }, some (.givenTwice s))
  | none =>
    let d := d.mark t
    match value.text? with
    | none => (d, some (.notText .send))
    | some s =>
      match d.store t s with
      | .ok d => (d, none)
      | .error fault => (d, some fault)

/-- The options that were given. -/
def options (d : Draft) : List UsageOption :=
  d.given.filterMap fun
    | .slot _ => none
    | .setting s => some (.setting s)

/-- The usage line after what was given. -/
def usage (d : Draft) : Usage := if d.given = [] then .send else .sendWith d.options

/-- The usage line with an option that is suggested. -/
def usageWith (d : Draft) (o : UsageOption) : Usage :=
  .sendWith (if d.options.contains o then d.options else d.options ++ [o])

end Draft

namespace Scan

/-- The setting that waits for its value. -/
def awaiting? (s : Scan) : Option Setting :=
  match s.pending with
  | some (.awaited t) => some t
  | _ => none

/-- Sets what is pending. With a fault comes what is set nevertheless. -/
def settled (s : Scan) : Draft × Option Fault :=
  match s.pending with
  | none => (s.draft, none)
  | some (.value target value) => s.draft.assign target value
  | some (.awaited t) => (s.draft, some (.noValue t))

/-- Goes on with nothing pending. -/
def settle (s : Scan) : Except Fault Scan :=
  match s.settled with
  | (draft, none) => .ok { s with draft, pending := none }
  | (_, some fault) => .error fault

/-- Sets a setting to the value that comes with it. -/
def attach (s : Scan) (t : Setting) (value : Argument) : Except Fault Scan :=
  match s.settle with
  | .error fault => .error fault
  | .ok s =>
    match s.draft.assign (.setting t) value with
    | (draft, none) => .ok { s with draft }
    | (_, some fault) => .error fault

/-- Waits for the value of a setting. -/
def await (s : Scan) (t : Setting) : Except Fault Scan :=
  match s.settle with
  | .error fault => .error fault
  | .ok s => .ok { s with pending := some (.awaited t) }

/-- Shows a page, unless something before it is wrong. -/
def showPage (s : Scan) (page : Page) : Except Fault Scan :=
  match s.settle with
  | .error fault => .error fault
  | .ok _ => .error (.help page)

/-- Refuses a long option that `send` does not have. -/
def unknownLong (s : Scan) (name : String) : Except Fault Scan :=
  let draft := s.settled.1
  match Text.mostSimilar? name sendLongs with
  | none => .error (.unknownArgument ("--" ++ name) (some .asValue) draft.usage)
  | some found =>
    let option : UsageOption :=
      match Setting.ofLong? found with
      | some t => .setting t
      | none => .flag .help
    .error (.unknownArgument ("--" ++ name) (some (.similarOption found)) (draft.usageWith option))

/-- Reads a long option. -/
def long (s : Scan) (name : Argument) (value : Option Argument) : Except Fault Scan :=
  match name.text? with
  | none => s.unknownLong name.shown
  | some text =>
    if text = Flag.help.long then
      match value with
      | none => s.showPage .send
      | some v =>
        let usage : Usage :=
          if s.draft.given = [] then .sendWith [.flag .help] else .sendChoice .help
        .error (.unexpectedValue v.shown .help usage)
    else
      match Setting.ofLong? text, value with
      | some t, some v => s.attach t v
      | some t, none => s.await t
      | none, _ => s.unknownLong text

/-- Reads short options; all that follows one that takes a value is the value. -/
def short (s : Scan) (first : Text.Utf8.Piece) (rest : Argument) : Except Fault Scan :=
  match first with
  | .char c =>
    if c = 'h' then s.showPage .sendSummary
    else
      match Setting.ofShort? c, rest with
      | some t, [] => s.await t
      | some t, .char '=' :: value => s.attach t value
      | some t, value => s.attach t value
      | none, _ => .error (.unknownArgument ("-" ++ String.singleton c) (some .asValue) .send)
  | _ => .error (.unknownArgument ("-" ++ Argument.shown (first :: rest)) (some .asValue) .send)

/-- Fills the next place. -/
def place (s : Scan) (a : Argument) : Except Fault Scan :=
  match s.slot with
  | none => .error (.unknownArgument a.shown none .send)
  | some slot =>
    match s.settle with
    | .error fault => .error fault
    | .ok s =>
      .ok { s with pending := some (.value (.slot slot) a), slot := slot.next? }

/-- Reads one argument. -/
def step (s : Scan) (a : Argument) : Except Fault Scan :=
  if s.trailing then s.place a
  else
    match a.shape with
    | .escape => .ok { s with trailing := true }
    | .long name value => s.long name value
    | .short first rest => s.short first rest
    | .plain =>
      match s.awaiting? with
      | some t => .ok { s with pending := some (.value (.setting t) a) }
      | none => s.place a

/-- Reads all arguments of `send`. -/
def steps (s : Scan) : List Argument → Except Fault Scan
  | [] => .ok s
  | a :: rest =>
    match s.step a with
    | .error fault => .error fault
    | .ok s => s.steps rest

end Scan

/-- The command that a draft is, once both places are filled. -/
def Draft.finish (d : Draft) : Except Fault SendCommand :=
  match d.peerId, d.data with
  | some peerId, some data =>
    .ok { peerId, data, topic := d.topic, headers := d.headers, timeoutMs := d.timeoutMs }
  | none, none => missing [Slot.peerId.placeholder, Slot.data.placeholder]
  | none, some _ => missing [Slot.peerId.placeholder]
  | some _, none => missing [Slot.data.placeholder]
where
  missing (placeholders : List String) : Except Fault SendCommand :=
    .error (.missing placeholders (.sendWith d.options))

/-- Reads the arguments of `send`. -/
def parseSend (args : List Argument) : Except Fault SendCommand :=
  match Scan.steps {} args with
  | .error fault => .error fault
  | .ok s =>
    match s.settle with
    | .error fault => .error fault
    | .ok s => s.draft.finish

/-! ## The program -/

/-- The page that the arguments of `help` ask for. -/
def helpPage : List Argument → Except Fault Page
  | [] => .ok .program
  | a :: rest =>
    if a = .ofText sendCommand then inside .send .send rest
    else if a = .ofText helpCommand then inside .help .help rest
    else .error (.unknownCommand a.shown [] (.program []))
where
  inside (page : Page) (usage : Usage) : List Argument → Except Fault Page
    | [] => .ok page
    | a :: _ => .error (.unknownCommand a.shown [] usage)

/-- The address that an argument is. -/
def urlText (a : Argument) : Except Fault String :=
  match a.text? with
  | some url => .ok url
  | none => .error (.notText (.program []))

/-- Shows something, unless the address before it is wrong. -/
def showTop (url : Option Argument) (shown : Fault) : Fault :=
  match url.map urlText with
  | some (.error fault) => fault
  | _ => shown

/-- Refuses a long option that the program does not have. -/
def unknownTop (name : String) (rest : List Argument) : Fault :=
  match Text.mostSimilar? name topLongs with
  | some found =>
    let flag : Flag := if found = Flag.help.long then .help else .version
    .unknownArgument ("--" ++ name) (some (.similarOption found)) (.program [.flag flag])
  | none =>
    let tip : Tip :=
      match Text.mostSimilar? name sendLongs, rest.contains (.ofText sendCommand) with
      | some found, true => .optionOf sendCommand found
      | _, _ => .asValue
    .unknownArgument ("--" ++ name) (some tip) (.program [])

/-- Refuses a word where a command is expected. -/
def unknownWord (trailing : Bool) (a : Argument) : Fault :=
  let isCommand := a = .ofText sendCommand || a = .ofText helpCommand
  if trailing && isCommand then
    .unknownArgument a.shown (some (.withoutEscape a.shown)) (.program [])
  else
    match Text.similarWords a.shown [sendCommand, helpCommand] with
    | [] => .unknownArgument a.shown none (.program [])
    | similar => .unknownCommand a.shown similar (.program [])

/-- Ends with no command. -/
def withoutCommand (url : Option Argument) : Fault :=
  match url with
  | none => .nothingGiven
  | some _ => showTop url .missingCommand

/-- Joins the address and the command. -/
def withCommand (url : Option Argument) (command : SendCommand) : Except Fault Invocation :=
  match url with
  | none => .error (.missing ["<URL>"] (.program []))
  | some a =>
    match urlText a with
    | .error fault => .error fault
    | .ok url => .ok { url, command }

/-- Reads the arguments of the program; `url` is the address if it was given, and no options
follow when `trailing`. -/
def parseFrom (url : Option Argument) (trailing : Bool) :
    List Argument → Except Fault Invocation
  | [] => .error (withoutCommand url)
  | a :: rest =>
    if !trailing && a = .ofText sendCommand then
      match parseSend rest with
      | .error fault => .error fault
      | .ok command => withCommand url command
    else if !trailing && a = .ofText helpCommand then
      match helpPage rest with
      | .error fault => .error fault
      | .ok page => .error (.help page)
    else
      match (if trailing then .plain else a.shape : Argument.Shape) with
      | .escape => parseFrom url true rest
      | .long name value =>
        match name.text? with
        | none => .error (unknownTop name.shown rest)
        | some text =>
          match flag? text, value with
          | some flag, none => .error (showTop url (shownBy flag))
          | some flag, some v => .error (.unexpectedValue v.shown flag (.program [.flag flag]))
          | none, _ => .error (unknownTop text rest)
      | .short first more =>
        match first with
        | .char 'h' => .error (showTop url (shownBy .help))
        | .char 'V' => .error (showTop url (shownBy .version))
        | .char c =>
          .error (.unknownArgument ("-" ++ String.singleton c) (some .asValue) (.program []))
        | _ =>
          .error
            (.unknownArgument ("-" ++ Argument.shown (first :: more)) (some .asValue)
              (.program []))
      | .plain =>
        match url with
        | none => parseFrom (some a) trailing rest
        | some _ => .error (unknownWord trailing a)
where
  flag? (name : String) : Option Flag :=
    if name = Flag.help.long then some .help
    else if name = Flag.version.long then some .version
    else none
  shownBy : Flag → Fault
    | .help => .help .program
    | .version => .version

/-- Reads a command line. -/
def parse (args : List Argument) : Except Fault Invocation := parseFrom none false args

end Courier.CommandLine
