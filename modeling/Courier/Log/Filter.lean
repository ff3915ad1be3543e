import Courier.Log.Directive
import Courier.Log.Event

/-!
# Log filters

A filter is a list of directives between commas. For an event the most specific directive counts
that applies to it. A filter that cannot be read lets only warnings and errors through, like no
filter at all.
-/

namespace Courier.Log

namespace Directive

/-- Whether a directive says something about an event outside of all spans. One that asks for a
span, or for the value of a field, does not. -/
def appliesTo (d : Directive) (e : Event) : Bool :=
  !d.spanned && (d.target.all fun t => t.toList.isPrefixOf e.target.toList)
    && d.field.all fun f => f.value.isNone && e.fieldNames.contains f.name

/-- The length of the target. No target is less than any. -/
def targetSize (d : Directive) : Nat :=
  match d.target with
  | none => 0
  | some t => t.utf8ByteSize + 1

def fieldName (d : Directive) : String :=
  match d.field with
  | none => ""
  | some f => f.name

/-- Whether `a` is more specific than `b`: by its target, and then by its field. -/
def outranks (a b : Directive) : Bool :=
  b.targetSize < a.targetSize || (a.targetSize == b.targetSize && b.fieldName < a.fieldName)

end Directive

/-- What directives say; without any, errors are let through. -/
structure Filter where
  directives : List Directive
  deriving DecidableEq

namespace Filter

/-- The filter that a text spells. -/
def read (s : String) : Except Directive.Fault Filter :=
  (((s.splitOn ",").filter (· != "")).mapM Directive.read).map fun directives =>
    { directives := if directives = [] then [{ level := .error }] else directives }

/-- The filter that counts when there is none that can be read. -/
def standard : Filter := { directives := [{ level := .warn }] }

/-- The directive for an event: the most specific one, and of equals the last. -/
def directiveFor? (f : Filter) (e : Event) : Option Directive :=
  (f.directives.filter (·.appliesTo e)).foldl
    (fun best d =>
      match best with
      | none => some d
      | some b => if b.outranks d then some b else some d)
    none

/-- Whether a filter lets an event through. -/
def passes (f : Filter) (e : Event) : Bool :=
  match f.directiveFor? e with
  | some d => e.level.rank ≤ d.level.rank
  | none => false

/-- The filter of a setting. -/
def ofSetting (setting : Option String) : Except Text.CutFault Filter :=
  match setting.map read with
  | none | some (.error .malformed) => .ok standard
  | some (.error (.cut fault)) => .error fault
  | some (.ok filter) => .ok filter

end Filter

end Courier.Log
