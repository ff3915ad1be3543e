import Courier.Text.Numbers
import Courier.Text.Terminal

/-!
# Log events

What is logged: a message of some part of the program, with fields and a level, which says how
urgent it is. `Event.line` is the line that it makes in the log.
-/

namespace Courier.Log

/-- How much is logged; a message is let through if its level is no higher. -/
inductive Level where
  | off | error | warn | info | debug | trace
  deriving DecidableEq

namespace Level

def all : List Level := [off, error, warn, info, debug, trace]

def rank : Level → Nat
  | .off => 0
  | .error => 1
  | .warn => 2
  | .info => 3
  | .debug => 4
  | .trace => 5

def name : Level → String
  | .off => "OFF"
  | .error => "ERROR"
  | .warn => "WARN"
  | .info => "INFO"
  | .debug => "DEBUG"
  | .trace => "TRACE"

/-- The style of the name. -/
def style : Level → String
  | .off | .error => "31"
  | .warn => "33"
  | .info => "32"
  | .debug => "34"
  | .trace => "35"

/-- The level that a text names: by its rank, or by its name in any letter case. -/
def ofText? (s : String) : Option Level :=
  match Text.Decimal.read s with
  | .ok rank => all.find? (·.rank == rank)
  | .error _ => all.find? (·.name == s.map Char.toUpper)

end Level

structure Event where
  level : Level
  /-- The part of the program that logs. -/
  target : String
  message : String
  /-- Names, with the texts of the values. -/
  fields : List (String × String) := []
  deriving DecidableEq

namespace Event

/-- The names of all fields. The message is one of them. -/
def fieldNames (e : Event) : List String := "message" :: e.fields.map (·.1)

/-- The columns that the name of a level takes. -/
def levelWidth : Nat := 5

/-- The line of an event. -/
def line (e : Event) (time : String) : Text.Styled :=
  let margin := String.ofList (List.replicate (levelWidth - e.level.name.length) ' ')
  [{ text := time, styles := ["2"] }, { text := " " },
    { text := margin ++ e.level.name, styles := [e.level.style] }, { text := " " },
    { text := e.target, styles := ["2"] }, { text := ":", styles := ["2"] },
    { text := " " ++ e.message }]
    ++ (e.fields.flatMap fun (name, value) =>
      [{ text := " " }, { text := name, styles := ["3"] }, { text := "=", styles := ["2"] },
        { text := value }])
    ++ [{ text := "\n" }]

end Event

end Courier.Log
