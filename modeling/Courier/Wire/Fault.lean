/-!
# Why a message cannot be read

A `Fault` is a cause together with the fields that were being read, innermost first.
`Fault.message` is its text.
-/

namespace Courier.Wire

/-- How the value of a field is laid out. -/
inductive WireType where
  | varint | sixtyFourBit | lengthDelimited | startGroup | endGroup | thirtyTwoBit
  deriving DecidableEq

namespace WireType

/-- The low three bits of a key name the layout; two of the eight values name none. -/
def ofNat? : Nat → Option WireType
  | 0 => some .varint
  | 1 => some .sixtyFourBit
  | 2 => some .lengthDelimited
  | 3 => some .startGroup
  | 4 => some .endGroup
  | 5 => some .thirtyTwoBit
  | _ => none

def toNat : WireType → Nat
  | .varint => 0
  | .sixtyFourBit => 1
  | .lengthDelimited => 2
  | .startGroup => 3
  | .endGroup => 4
  | .thirtyTwoBit => 5

@[simp] theorem ofNat?_toNat (t : WireType) : ofNat? t.toNat = some t := by cases t <;> rfl

theorem toNat_lt (t : WireType) : t.toNat < 8 := by cases t <;> decide

/-- The name of a layout in fault texts. -/
def name : WireType → String
  | .varint => "Varint"
  | .sixtyFourBit => "SixtyFourBit"
  | .lengthDelimited => "LengthDelimited"
  | .startGroup => "StartGroup"
  | .endGroup => "EndGroup"
  | .thirtyTwoBit => "ThirtyTwoBit"

end WireType

/-- What is wrong with the bytes. -/
inductive Cause where
  /-- A varint runs out, is longer than ten bytes or exceeds 64 bits. -/
  | invalidVarint
  /-- A key exceeds 32 bits. -/
  | invalidKey (value : Nat)
  | invalidWireType (value : Nat)
  | zeroFieldNumber
  /-- A known field has another layout than its declaration asks for. -/
  | unexpectedWireType (actual : WireType)
  | bufferUnderflow
  /-- The fields of a nested message do not end where its length says. -/
  | lengthExceeded
  | recursionLimit
  | unexpectedEndGroup
  | invalidText
  deriving DecidableEq

def Cause.message : Cause → String
  | .invalidVarint => "invalid varint"
  | .invalidKey value => "invalid key value: " ++ toString value
  | .invalidWireType value => "invalid wire type value: " ++ toString value
  | .zeroFieldNumber => "invalid tag value: 0"
  | .unexpectedWireType actual =>
    "invalid wire type: " ++ actual.name ++ " (expected LengthDelimited)"
  | .bufferUnderflow => "buffer underflow"
  | .lengthExceeded => "delimited length exceeded"
  | .recursionLimit => "recursion limit reached"
  | .unexpectedEndGroup => "unexpected end group tag"
  | .invalidText => "invalid string value: data is not UTF-8 encoded"

/-- A cause and the fields being read when it struck, innermost first. -/
structure Fault where
  cause : Cause
  path : List String := []
  deriving DecidableEq

namespace Fault

/-- The fault as seen from the field around it. -/
def within (place : String) (f : Fault) : Fault := { f with path := f.path ++ [place] }

/-- The text of a fault: every field on the path, then the cause. -/
def message (f : Fault) : String :=
  "failed to decode Protobuf message: "
    ++ String.join (f.path.map (· ++ ": ")) ++ f.cause.message

end Fault

end Courier.Wire
