import Courier.Text.Base64
import Courier.Text.Cut
import Courier.Text.Numbers

/-!
# Crashes

What ends the program instead of the call. The program runs on worker threads, which start before
anything else happens. Settings say how many there are and how much stack each has; `Workers.start`
says why they cannot start.
-/

namespace Courier

namespace Workers

inductive Fault where
  | unreadable (value : String) (fault : Text.Decimal.Fault)
  /-- There are to be none. -/
  | zero
  /-- There is no room to keep track of them. -/
  | tooMany
  /-- The stack takes more than a machine has. -/
  | stackTooLarge
  /-- The stack leaves no place for its guard. -/
  | invalidStack
  deriving DecidableEq

/-- The setting for the number of workers. -/
def countSetting : String := "TOKIO_WORKER_THREADS"

/-- The setting for the stack of a thread. -/
def stackSetting : String := "RUST_MIN_STACK"

def Fault.message : Fault → String
  | .unreadable value fault =>
    "\"" ++ countSetting ++ "\" must be usize, error: " ++ fault.message ++ ", value: " ++ value
  | .zero => "\"" ++ countSetting ++ "\" cannot be set to 0"
  | .tooMany => "capacity overflow"
  | .stackTooLarge =>
    "OS can't spawn worker thread: Resource temporarily unavailable (os error 11)"
  | .invalidStack => "OS can't spawn worker thread: Invalid argument (os error 22)"

/-- The workers that a table of eight bytes for each may have. -/
def maxCount : Nat := 0x0FFFFFFFFFFFFFFF

/-- The bytes that no stack has. -/
def stackLimit : Nat := 0x10000000000

/-- The bytes that leave no page of memory for a guard. -/
def guardLimit : Nat := 0xFFFFFFFFFFFFF000

/-- Judges the number of workers. -/
def judgeCount : Option String → Except Fault Unit
  | none => .ok ()
  | some value =>
    match Text.Decimal.read value with
    | .error fault => .error (.unreadable value fault)
    | .ok n =>
      if n = 0 then .error .zero
      else if maxCount < n then .error .tooMany
      else .ok ()

/-- Judges the stack. A setting that is no number does not count. -/
def judgeStack (setting : Option String) : Except Fault Unit :=
  match setting.map Text.Decimal.read with
  | some (.ok n) =>
    if guardLimit ≤ n then .error .invalidStack
    else if stackLimit ≤ n then .error .stackTooLarge
    else .ok ()
  | some (.error _) | none => .ok ()

/-- Starts the workers with the settings for their number and their stack. -/
def start (count stack : Option String) : Except Fault Unit := do
  judgeCount count
  judgeStack stack

end Workers

inductive Crash where
  /-- A header map has no room for another name. -/
  | headersFull
  /-- A deadline has too many hours for its text. -/
  | deadlineTooLong
  /-- The details of a status are not the base64 of anything. -/
  | malformedDetails (fault : Text.Base64.Fault)
  /-- A text is cut through a character. -/
  | cutCharacter (fault : Text.CutFault)
  /-- The threads of the program do not start. -/
  | noWorkers (fault : Workers.Fault)
  deriving DecidableEq

def Crash.message : Crash → String
  | .headersFull => "size overflows MAX_SIZE: MaxSizeReached"
  | .deadlineTooLong => "duration is unrealistically large"
  | .malformedDetails fault =>
    "Invalid status header, expected base64 encoded value: " ++ fault.describe
  | .cutCharacter fault => fault.describe
  | .noWorkers fault => fault.message

end Courier
