import Courier.CommandLine.Header
import Courier.CommandLine.Usage
import Courier.Text.Numbers
import Courier.Text.Terminal

/-!
# Why a command line is not run

A command line is not run when it is wrong, and also when it asks for help or for the version.
`Fault.styled` is what is shown then. Without colour the commands to a terminal that a user's own
words hold are left out too, so `Fault.plain` shows the coloured text with all sequences removed.
-/

namespace Courier.CommandLine

open Text (Styled)

/-- What may help a user who wrote an unknown argument. -/
inductive Tip where
  /-- The argument can be a value behind two hyphens. -/
  | asValue
  | similarOption (name : String)
  /-- Another command has the option. -/
  | optionOf (command name : String)
  /-- The argument is a command, but stands behind two hyphens. -/
  | withoutEscape (command : String)
  deriving DecidableEq

/-- Why a value is refused. -/
inductive ValueFault where
  | header
  | number (fault : Text.Decimal.Fault)
  deriving DecidableEq

def ValueFault.message : ValueFault → String
  | .header => headerFormat
  | .number fault => fault.message

inductive Fault where
  | help (page : Page)
  | version
  /-- Nothing was given. -/
  | nothingGiven
  | missingCommand
  | missing (placeholders : List String) (usage : Usage)
  | unknownArgument (shown : String) (tip : Option Tip) (usage : Usage)
  /-- A word that is no command, with the commands that it may mean. -/
  | unknownCommand (shown : String) (similar : List String) (usage : Usage)
  | notText (usage : Usage)
  | noValue (setting : Setting)
  | invalidValue (shown : String) (setting : Setting) (fault : ValueFault)
  | givenTwice (setting : Setting)
  | unexpectedValue (shown : String) (flag : Flag) (usage : Usage)
  deriving DecidableEq

namespace Fault

/-- Whether the user asked for it. -/
def isRequested : Fault → Bool
  | .help _ | .version => true
  | _ => false

/-- The exit code of the program. -/
def exitCode (f : Fault) : Nat := if f.isRequested then 0 else 2

/-- Where more is to be read; the command `help` has no page of its own on options. -/
def more : Option Usage → Styled
  | some .help => [normal "\n"]
  | _ => [normal "\n\nFor more information, try '", literal "--help", normal "'.\n"]

/-- A fault with its heading and, if it has one, its usage. -/
def error (message : Styled) (usage : Option Usage) : Styled :=
  [errorSpan "error:", normal " "] ++ message
    ++ (match usage with
      | some u => normal "\n\n" :: u.styled
      | none => [])
    ++ more usage

def tip (text : Styled) : Styled := [normal "\n\n  ", valid "tip:", normal " "] ++ text

/-- The tip for an argument. -/
def tipFor (shown : String) : Tip → Styled
  | .asValue =>
    tip [normal "to pass '", invalid shown, normal "' as a value, use '", valid ("-- " ++ shown),
      normal "'"]
  | .similarOption name =>
    tip [normal "a similar argument exists: '", valid ("--" ++ name), normal "'"]
  | .optionOf command name =>
    tip [normal "'", valid (command ++ " --" ++ name), normal "' exists"]
  | .withoutEscape command =>
    tip [normal "subcommand '", valid command, normal "' exists; to use it, remove the '",
      invalid "--", normal "' before it"]

/-- The tip that names similar commands. -/
def similarCommands : List String → Styled
  | [] => []
  | [name] => tip [normal "a similar subcommand exists: '", valid name, normal "'"]
  | names =>
    let quotedNames := names.map fun name => [normal "'", valid name, normal "'"]
    tip (normal "some similar subcommands exist: "
      :: (quotedNames.intersperse [normal ", "]).flatten)

def styled : Fault → Styled
  | .help page => page.styled
  | .version => .ofText versionText
  | .nothingGiven => Page.program.styled
  | .missingCommand =>
    error
      [normal "'", invalid programName,
        normal "' requires a subcommand but one was not provided\n  [subcommands: ",
        valid sendCommand, normal ", ", valid helpCommand, normal "]"]
      (some (.program []))
  | .missing placeholders usage =>
    error
      (normal "the following required arguments were not provided:"
        :: placeholders.flatMap fun p => [normal "\n  ", valid p])
      (some usage)
  | .unknownArgument shown tip usage =>
    error
      ([normal "unexpected argument '", invalid shown, normal "' found"]
        ++ (match tip with
          | some t => tipFor shown t
          | none => []))
      (some usage)
  | .unknownCommand shown similar usage =>
    error
      ([normal "unrecognized subcommand '", invalid shown, normal "'"] ++ similarCommands similar)
      (some usage)
  | .notText usage =>
    error [normal "invalid UTF-8 was detected in one or more arguments"] (some usage)
  | .noValue setting =>
    error
      [normal "a value is required for '", invalid setting.display,
        normal "' but none was supplied"]
      none
  | .invalidValue shown setting fault =>
    error
      [normal "invalid value '", invalid shown, normal "' for '", literal setting.display,
        normal ("': " ++ fault.message)]
      none
  | .givenTwice setting =>
    error
      [normal "the argument '", invalid setting.display,
        normal "' cannot be used multiple times"]
      (some .send)
  | .unexpectedValue shown flag usage =>
    error
      [normal "unexpected value '", invalid shown, normal "' for '",
        literal ("--" ++ flag.long), normal "' found; no more were expected"]
      (some usage)

/-- What is shown without colour. -/
def plain (f : Fault) (i : Text.Terminal.Interruption) : String :=
  Text.Terminal.visible i f.styled.colored

/-- What is printed. -/
def render (f : Fault) (color : Bool) : String :=
  if color then f.styled.colored else f.plain .pauses

end Fault

end Courier.CommandLine
