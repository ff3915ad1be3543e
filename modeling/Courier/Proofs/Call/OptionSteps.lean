import Courier.Call.Options
import Courier.Proofs.Http.Headers

/-!
# Building options step by step

Options are built from none by headers and deadlines, one step after the other. `get?_addAll`
says what is left of a row of accepted steps: under every name the value of the last step that is
about it, whatever the case of its key.
-/

namespace Courier

open Http (Headers)

/-- A step in building options. -/
inductive OptionStep where
  | header (key value : String)
  | timeout (d : Duration)

/-- The value that a step gives to a header name, if it is about that name. -/
def OptionStep.value? (name : String) : OptionStep → Option String
  | .header key value => if metadataName? key = some name then some value else none
  | .timeout _ => none

/-- The value that the last step about a header name gives it. -/
def lastValue? (name : String) : List OptionStep → Option String
  | [] => none
  | step :: rest => (lastValue? name rest).or (step.value? name)

theorem lastValue?_eq_none {name : String} {steps : List OptionStep}
    (silent : ∀ step ∈ steps, step.value? name = none) : lastValue? name steps = none := by
  induction steps with
  | nil => rfl
  | cons step rest ih =>
    rw [lastValue?, ih fun s mem => silent s (List.mem_cons_of_mem _ mem),
      silent step List.mem_cons_self]
    rfl

/-- The name that a key spells is the key in lower case. -/
theorem eq_of_metadataName? {key name : String} (named : metadataName? key = some name) :
    name = key.map Char.toLower := by
  unfold metadataName? Http.headerName? at named
  split at named
  · next spelled =>
    split at spelled
    · cases spelled
    · cases spelled
      split at named
      · cases named
      · exact (Option.some.inj named).symm
  · cases named

namespace Options

/-- The options after one more step. -/
def add (o : Options) : OptionStep → Except HeaderFault Options
  | .header key value => o.withHeader key value
  | .timeout d => .ok (o.withTimeout d)

/-- The options after all steps, unless one is refused. -/
def addAll (o : Options) : List OptionStep → Except HeaderFault Options
  | [] => .ok o
  | step :: rest =>
    match o.add step with
    | .error fault => .error fault
    | .ok next => next.addAll rest

/-! ## One step -/

/-- A header is refused for its key, whatever its value is, or for its value, or it is accepted
under its key in lower case. -/
theorem header_cases (key value : String) :
    (metadataName? key = none ∧ header key value = .error (.invalidKey key)) ∨
    (metadataName? key = some (key.map Char.toLower) ∧ Http.isHeaderValue value = false ∧
      header key value = .error (.invalidValue key)) ∨
    (metadataName? key = some (key.map Char.toLower) ∧ Http.isHeaderValue value = true ∧
      header key value = .ok (key.map Char.toLower, utf8 value)) := by
  unfold header
  cases named : metadataName? key with
  | none => exact .inl ⟨rfl, rfl⟩
  | some name =>
    right
    rw [eq_of_metadataName? named]
    cases Http.isHeaderValue value with
    | false => exact .inl ⟨rfl, rfl, rfl⟩
    | true => exact .inr ⟨rfl, rfl, rfl⟩

/-- With room in the map, a header is judged by itself, and then it is inserted. -/
theorem withHeader_of_room {o : Options} (room : o.headers.isFull = false) (key value : String) :
    o.withHeader key value =
      (header key value).map fun e => { o with headers := o.headers.insertEntry e } := by
  unfold withHeader
  rw [room]
  cases header key value with
  | error fault => rfl
  | ok entry => rfl

/-- Without room, a header that is accepted by itself is too much. -/
theorem withHeader_of_full {o : Options} (full : o.headers.isFull = true) {key value : String}
    {entry : String × Bytes} (accepted : header key value = .ok entry) :
    o.withHeader key value = .error .noRoom := by
  unfold withHeader
  rw [accepted]
  exact if_pos full

/-- A header is accepted exactly if its key is the name of metadata, its value may stand in a
header and the map has room; then it is all that changes. -/
theorem withHeader_eq_ok_iff {o o' : Options} {key value : String} :
    o.withHeader key value = .ok o' ↔
      ∃ name, metadataName? key = some name ∧ Http.isHeaderValue value = true ∧
        o.headers.isFull = false ∧
        o' = { o with headers := o.headers.insert name (utf8 value) } := by
  unfold withHeader header
  cases named : metadataName? key with
  | none => simp
  | some name =>
    by_cases allowed : Http.isHeaderValue value = true
    · by_cases full : o.headers.isFull = true
      · simp [allowed, full]
      · rw [Bool.not_eq_true] at full
        simp [allowed, full, eq_comm]
    · simp [allowed]

/-- What a step leaves under a name: its own value, or what was there. -/
theorem get?_add {o o' : Options} {step : OptionStep} (added : o.add step = .ok o')
    (name : String) :
    o'.headers.get? name = ((step.value? name).map utf8).or (o.headers.get? name) := by
  cases step with
  | timeout d =>
    cases added
    rfl
  | header key value =>
    obtain ⟨own, named, -, -, rfl⟩ := withHeader_eq_ok_iff.mp added
    by_cases same : own = name
    · subst same
      rw [Headers.get?_insert_self, OptionStep.value?, if_pos named]
      rfl
    · have other : ¬metadataName? key = some name := by
        rw [named]
        exact fun h => same (Option.some.inj h)
      rw [Headers.get?_insert_of_ne _ _ (Ne.symm same), OptionStep.value?, if_neg other]
      rfl

/-! ## All steps -/

/-- Under every name, accepted steps leave the value of the last step about it. -/
theorem get?_addAll {o o' : Options} {steps : List OptionStep}
    (built : o.addAll steps = .ok o') (name : String) :
    o'.headers.get? name = ((lastValue? name steps).map utf8).or (o.headers.get? name) := by
  induction steps generalizing o with
  | nil =>
    cases built
    rfl
  | cons step rest ih =>
    rw [addAll] at built
    split at built
    · cases built
    · next middle added =>
      -- What the rest sets wins over this step, and this step over what was there.
      rw [ih built, get?_add added, lastValue?]
      cases lastValue? name rest <;> cases step.value? name <;> rfl

/-- Options that are built from none hold the last value of every name and nothing else. -/
theorem get?_of_built {o : Options} {steps : List OptionStep}
    (built : ({} : Options).addAll steps = .ok o) (name : String) :
    o.headers.get? name = (lastValue? name steps).map utf8 := by
  rw [get?_addAll built name]
  cases lastValue? name steps <;> rfl

end Options

end Courier
