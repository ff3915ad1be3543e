/-!
# What the command line sets

The command `send` has two places, which are filled in order, and three settings, each of which
takes a value. Two flags show something instead of running a command.
-/

namespace Courier.CommandLine

/-- A place of `send`. -/
inductive Slot where
  | peerId | data
  deriving DecidableEq

namespace Slot

def placeholder : Slot → String
  | .peerId => "<PEER_ID>"
  | .data => "<DATA>"

/-- The place that is filled after this one. -/
def next? : Slot → Option Slot
  | .peerId => some .data
  | .data => none

end Slot

/-- A setting of `send`. -/
inductive Setting where
  | topic | header | timeout
  deriving DecidableEq

namespace Setting

def all : List Setting := [.topic, .header, .timeout]

def long : Setting → String
  | .topic => "topic"
  | .header => "header"
  | .timeout => "timeout-ms"

def placeholder : Setting → String
  | .topic => "<TOPIC>"
  | .header => "<HEADERS>"
  | .timeout => "<TIMEOUT_MS>"

/-- The setting with its value, as it is named to the user. -/
def display (s : Setting) : String := "--" ++ s.long ++ " " ++ s.placeholder

def ofLong? (name : String) : Option Setting := all.find? fun s => s.long == name

def ofShort? (c : Char) : Option Setting := if c = 'H' then some .header else none

/-- Whether a setting may be given more than once. -/
def repeats : Setting → Bool
  | .header => true
  | .topic | .timeout => false

@[simp] theorem ofLong?_long (s : Setting) : ofLong? s.long = some s := by
  cases s <;> decide +kernel

end Setting

/-- A place or a setting. -/
inductive Target where
  | slot (s : Slot)
  | setting (s : Setting)
  deriving DecidableEq

/-- A flag that shows something. -/
inductive Flag where
  | help | version
  deriving DecidableEq

def Flag.long : Flag → String
  | .help => "help"
  | .version => "version"

/-- The names of the commands. -/
def sendCommand : String := "send"
def helpCommand : String := "help"

/-- The long options of `send`. -/
def sendLongs : List String := Setting.all.map Setting.long ++ [Flag.help.long]

/-- The long options that stand before the command. -/
def topLongs : List String := [Flag.help.long, Flag.version.long]

end Courier.CommandLine
