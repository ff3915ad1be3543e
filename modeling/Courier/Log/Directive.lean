import Courier.Log.Event
import Courier.Text.Characters
import Courier.Text.Cut
import Courier.Text.Pattern

/-!
# Directives

A directive says what is logged: `target[span{field=value}]=level`, of which every part may be
left out, or a level alone. `Directive.read` reads one. Blanks around it are skipped to find its
parts, but the parts are then cut at the same places from the text with the blanks, so blanks in
front shift them.
-/

namespace Courier.Log

/-- A field that a message must have. -/
structure FieldCondition where
  name : String
  /-- The value that it must have, if that matters. -/
  value : Option String := none
  deriving DecidableEq

structure Directive where
  /-- What the targets start with. -/
  target : Option String := none
  /-- Whether only what happens in a span of some name is meant. -/
  spanned : Bool := false
  field : Option FieldCondition := none
  level : Level := .trace
  deriving DecidableEq

/-- Why a directive cannot be read. -/
inductive Directive.Fault where
  | malformed
  /-- One of its parts is cut through a character. -/
  | cut (fault : Text.CutFault)
  deriving DecidableEq

/-- Whether a text can be the value of a field: a number or a pattern. Any number is a pattern
unless it has a plus sign. -/
def isFieldValue (s : String) : Bool :=
  match s.toList with
  | '+' :: cs => Text.Decimal.isReal cs
  | _ => Text.Pattern.isPattern s

namespace FieldCondition

/-- A field, with what stands between its first two equals signs as its value. -/
def read? (s : String) : Option FieldCondition :=
  match s.splitOn "=" with
  | name :: value :: _ =>
    if isFieldValue value then some { name, value := some value } else none
  | [name] => if name = "" then none else some { name }
  | [] => none

end FieldCondition

/-! ## Reading -/

/-- Which part of a directive is read, with the place where it starts. -/
inductive Stage where
  | first
  /-- A target or a level. -/
  | word (start : Nat)
  | span (start : Nat)
  | field (start : Nat)
  /-- Behind the brace of a field. -/
  | fieldEnd
  /-- Behind the bracket of a span. -/
  | spanEnd
  | level (start : Nat)
  deriving DecidableEq

/-- A reader of a directive. -/
structure Reader where
  stage : Stage := .first
  /-- The bytes read so far. -/
  place : Nat := 0
  /-- What has been read. -/
  found : Directive := {}

/-- A part of a directive: the text between two places. -/
def part (text : String) (start stop : Nat) : Except Directive.Fault String :=
  (Text.cut text start stop).mapError .cut

/-- What has been read, if it is anything. -/
def wellFormed {α : Type} (found : Option α) : Except Directive.Fault α :=
  match found with
  | some a => .ok a
  | none => .error .malformed

namespace Reader

/-- Whether a directive may start with a character, its bracket apart. -/
def startsWord (c : Char) : Bool := Text.isAlphanumeric c || "-:_".toList.contains c

/-- The reader at the next stage. -/
def enter (r : Reader) (stage : Stage) (found : Directive) : Reader := { r with stage, found }

/-- The reader after a character of `text`, but for its place. The name of a span is cut out of the
text, but it only matters whether there is one. -/
def stageAfter (text : String) (r : Reader) (c : Char) : Except Directive.Fault Reader :=
  match r.stage with
  | .first =>
    if c = '[' then .ok (r.enter (.span (r.place + 1)) r.found)
    else if startsWord c then .ok (r.enter (.word r.place) r.found)
    else .error .malformed
  | .word start =>
    if c = '=' ∨ c = '[' then do
      let target ← part text start r.place
      let stage := if c = '=' then Stage.level (r.place + 1) else Stage.span (r.place + 1)
      return r.enter stage { r.found with target := some target }
    else .ok r
  | .span start =>
    if c = ']' then do
      let _ ← part text start r.place
      return r.enter .spanEnd { r.found with spanned := true }
    else if c = '{' then do
      let name ← part text start r.place
      return r.enter (.field (r.place + 1)) { r.found with spanned := name != "" }
    else .ok r
  | .field start =>
    if c = '}' then do
      let field ← wellFormed (FieldCondition.read? (← part text start r.place))
      return r.enter .fieldEnd { r.found with field := some field }
    else .ok r
  | .fieldEnd => if c = ']' then .ok (r.enter .spanEnd r.found) else .error .malformed
  | .spanEnd => if c = '=' then .ok (r.enter (.level (r.place + 1)) r.found) else .error .malformed
  | .level _ => .ok r

/-- The reader after a character of `text`. -/
def step (text : String) (r : Reader) (c : Char) : Except Directive.Fault Reader :=
  (r.stageAfter text c).map fun next => { next with place := r.place + c.utf8Size }

/-- The directive that ends here. A word is a level if it names one. -/
def finish (text : String) (r : Reader) : Except Directive.Fault Directive :=
  match r.stage with
  | .word start => do
    let word ← part text start text.utf8ByteSize
    match Level.ofText? word with
    | some level => return { r.found with level }
    | none => return { r.found with target := some word }
  | .level start => do
    let word ← part text start text.utf8ByteSize
    if word = "" then return r.found
    else return { r.found with level := ← wellFormed (Level.ofText? word) }
  | .spanEnd => .ok r.found
  | .first | .span _ | .field _ | .fieldEnd => .error .malformed

end Reader

/-- The directive that a text spells. -/
def Directive.read (s : String) : Except Directive.Fault Directive := do
  (← (Text.trim s.toList).foldlM (Reader.step s) {}).finish s

end Courier.Log
