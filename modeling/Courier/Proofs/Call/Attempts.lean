import Courier.Proofs.Call.OptionSteps
import Courier.Proofs.Http.Crowds

/-!
# Steps of which some are refused

A caller may go on after a step that was refused: the options are then what they were before it.
What comes of a row of steps is told by two things alone, the headers that were accepted, in their
order, and the last deadline (`attemptAll_eq`). So neither a refused step nor the place of a
deadline among the headers leaves a trace in the options. All this is so as long as no header finds the
map full (`HaveRoom`); `crowdSteps` is a row after which every other header does.
-/

namespace Courier

open Http (Headers)

/-! ## What a row of steps says -/

/-- The name and the value that a step leaves, if it is a header that is accepted. -/
def OptionStep.entry? : OptionStep → Option (String × Bytes)
  | .header key value => (Options.header key value).toOption
  | .timeout _ => none

/-- The deadline that a step sets. -/
def OptionStep.duration? : OptionStep → Option Duration
  | .header _ _ => none
  | .timeout d => some d

/-- The headers that are accepted in a row of steps, in order. -/
def acceptedHeaders (steps : List OptionStep) : List (String × Bytes) :=
  steps.filterMap OptionStep.entry?

/-- The last deadline that a row of steps sets. -/
def lastDuration? (steps : List OptionStep) : Option Duration :=
  (steps.filterMap OptionStep.duration?).getLast?

/-- The keys under which a row of steps gets headers accepted, in lower case. -/
def acceptedKeys (steps : List OptionStep) : Finset String :=
  ((acceptedHeaders steps).map (·.1)).toFinset

/-- The value with which a name was last accepted in a row of steps. -/
def lastAccepted? (name : String) (steps : List OptionStep) : Option Bytes :=
  (Headers.valuesIn name (acceptedHeaders steps)).getLast?

/-- No header that is accepted by itself finds the map full when its turn comes. -/
def HaveRoom (steps : List OptionStep) : Prop :=
  ({} : Headers).takes Headers.insertEntry (acceptedHeaders steps) = true

/-- Fewer than 6,554 keys always have room, whatever their hashes are. -/
theorem haveRoom_of_few {steps : List OptionStep} (few : (acceptedKeys steps).card < 6554) :
    HaveRoom steps := by
  refine Headers.takes_of_few (fun h e => Headers.names_insert h e.1 e.2) ?_
  show (∅ ∪ ((acceptedHeaders steps).map (·.1)).toFinset).card < 6554
  rw [Finset.empty_union]
  exact few

theorem lastDuration?_eq_none {steps : List OptionStep}
    (silent : ∀ step ∈ steps, step.duration? = none) : lastDuration? steps = none := by
  rw [lastDuration?, List.filterMap_eq_nil_iff.mpr silent]
  rfl

theorem lastDuration?_cons (step : OptionStep) (rest : List OptionStep) :
    lastDuration? (step :: rest) = (lastDuration? rest).or step.duration? := by
  cases step with
  | header key value => exact (Option.or_none).symm
  | timeout d =>
    show (d :: rest.filterMap OptionStep.duration?).getLast? = _
    rw [List.getLast?_cons, lastDuration?]
    cases (rest.filterMap OptionStep.duration?).getLast? <;> rfl

/-- A header that is accepted is kept under its key in lower case. -/
theorem Options.of_header_eq_ok {key value name : String} {bytes : Bytes}
    (accepted : Options.header key value = .ok (name, bytes)) : name = key.map Char.toLower := by
  rcases Options.header_cases key value with ⟨-, judged⟩ | ⟨-, -, judged⟩ | ⟨-, -, judged⟩
  · rw [judged] at accepted
    cases accepted
  · rw [judged] at accepted
    cases accepted
  · rw [judged] at accepted
    cases accepted
    rfl

/-- What was accepted once was accepted a last time. -/
theorem lastAccepted?_of_mem {steps : List OptionStep} {name : String} {bytes : Bytes}
    (accepted : (name, bytes) ∈ acceptedHeaders steps) :
    ∃ v, lastAccepted? name steps = some v := by
  have there : bytes ∈ Headers.valuesIn name (acceptedHeaders steps) :=
    List.mem_map.mpr ⟨_, List.mem_filter.mpr ⟨accepted, beq_self_eq_true name⟩, rfl⟩
  exact ⟨_, List.getLast?_eq_some_getLast (List.ne_nil_of_mem there)⟩

/-! ## Taking a row of steps -/

namespace Options

/-- The options after a step, or as they were if it is refused. -/
def attempt (o : Options) (step : OptionStep) : Options :=
  match o.add step with
  | .ok next => next
  | .error _ => o

/-- The options after a row of steps, where refused ones are passed over. -/
def attemptAll (o : Options) (steps : List OptionStep) : Options := steps.foldl attempt o

/-- In a map that has room, a step leaves its header or its deadline, and nothing if it is
refused. -/
theorem attempt_of_room {o : Options} (room : o.headers.isFull = false) (step : OptionStep) :
    o.attempt step =
      { timeout := step.duration?.or o.timeout
        headers := o.headers.insertAll step.entry?.toList } := by
  cases step with
  | timeout d => rfl
  | header key value =>
    have judged : o.add (.header key value) = _ := withHeader_of_room room key value
    rw [attempt, judged, OptionStep.entry?]
    cases header key value with
    | error fault => rfl
    | ok entry => rfl

/-- A step that leaves no header leaves the map alone, with room or without. -/
theorem attempt_of_no_entry {o : Options} {step : OptionStep} (none : step.entry? = none) :
    o.attempt step = { o with timeout := step.duration?.or o.timeout } := by
  cases step with
  | timeout d => rfl
  | header key value =>
    rw [OptionStep.entry?] at none
    rw [attempt, add, withHeader]
    cases judged : header key value with
    | error fault => rfl
    | ok entry => rw [judged] at none; cases none

theorem acceptedHeaders_cons (step : OptionStep) (rest : List OptionStep) :
    acceptedHeaders (step :: rest) = step.entry?.toList ++ acceptedHeaders rest := by
  unfold acceptedHeaders
  cases taken : step.entry? with
  | none => rw [List.filterMap_cons_none taken]; rfl
  | some e => rw [List.filterMap_cons_some taken]; rfl

/-- A row of steps leaves the accepted headers and the last deadline, as long as none of these headers
finds the map full. -/
theorem attemptAll_eq {o : Options} {steps : List OptionStep}
    (room : o.headers.takes Headers.insertEntry (acceptedHeaders steps) = true) :
    o.attemptAll steps =
      { timeout := (lastDuration? steps).or o.timeout
        headers := o.headers.insertAll (acceptedHeaders steps) } := by
  induction steps generalizing o with
  | nil => rfl
  | cons step rest ih =>
    show (o.attempt step).attemptAll rest = _
    rw [acceptedHeaders_cons] at room ⊢
    rw [lastDuration?_cons, Option.or_assoc]
    cases taken : step.entry? with
    | none =>
      rw [taken] at room
      rw [attempt_of_no_entry taken]
      exact ih room
    | some e =>
      rw [taken] at room
      obtain ⟨now, later⟩ := Bool.and_eq_true_iff.mp room
      rw [attempt_of_room ((Bool.not_eq_true' _).mp now), taken]
      exact ih later

/-- A row of steps that finds room gives these options when it is taken from none. -/
theorem attemptAll_of_haveRoom {steps : List OptionStep} (room : HaveRoom steps) :
    ({} : Options).attemptAll steps =
      { timeout := lastDuration? steps
        headers := Headers.insertAll {} (acceptedHeaders steps) } := by
  rw [attemptAll_eq (o := {}) room, Option.or_none]

end Options

/-- Where a row of steps does not find room, it comes to a header that is accepted by itself and finds
the map full. -/
theorem full_of_not_haveRoom {steps : List OptionStep} (crowded : ¬HaveRoom steps) :
    ∃ front key value, front ++ [.header key value] <+: steps ∧ HaveRoom front ∧
      (∃ entry, Options.header key value = .ok entry) ∧
      (({} : Options).attemptAll front).withHeader key value = .error .noRoom := by
  obtain ⟨taken, e, later, parts, room, full⟩ :=
    Headers.exists_full_of_takes_eq_false (Bool.eq_false_of_not_eq_true crowded)
  obtain ⟨front, behind, rfl, rfl, rest⟩ := List.filterMap_eq_append_iff.mp parts
  obtain ⟨silent, step, back, rfl, none, own, -⟩ := List.filterMap_eq_cons_iff.mp rest
  have nothing : acceptedHeaders silent = [] := List.filterMap_eq_nil_iff.mpr none
  have same : acceptedHeaders (front ++ silent) = acceptedHeaders front := by
    unfold acceptedHeaders at nothing ⊢
    rw [List.filterMap_append, nothing, List.append_nil]
  have room' : HaveRoom (front ++ silent) := by
    rw [HaveRoom, same]
    exact room
  cases step with
  | timeout d => cases own
  | header key value =>
    have accepted : Options.header key value = .ok e := by
      rw [OptionStep.entry?] at own
      cases judged : Options.header key value with
      | error fault =>
        rw [judged] at own
        cases own
      | ok entry =>
        rw [judged] at own
        cases own
        rfl
    refine ⟨front ++ silent, key, value, ⟨back, by simp⟩, room', ⟨e, accepted⟩, ?_⟩
    refine Options.withHeader_of_full ?_ accepted
    rw [Options.attemptAll_of_haveRoom room', same]
    exact full

/-- Where every header is accepted, passing over refused steps is taking all of them. -/
theorem Options.addAll_of_room {o : Options} {steps : List OptionStep}
    (room : o.headers.takes Headers.insertEntry (acceptedHeaders steps) = true)
    (accepted : ∀ key value, .header key value ∈ steps → ∃ e, header key value = .ok e) :
    o.addAll steps = .ok (o.attemptAll steps) := by
  induction steps generalizing o with
  | nil => rfl
  | cons step rest ih =>
    have others : ∀ key value, .header key value ∈ rest → ∃ e, header key value = .ok e :=
      fun key value mem => accepted key value (List.mem_cons_of_mem _ mem)
    rw [acceptedHeaders_cons] at room
    cases step with
    | timeout d => exact ih room others
    | header key value =>
      obtain ⟨e, judged⟩ := accepted key value List.mem_cons_self
      have own : OptionStep.entry? (.header key value) = some e := by
        rw [OptionStep.entry?, judged]
        rfl
      rw [own] at room
      obtain ⟨now, later⟩ := Bool.and_eq_true_iff.mp room
      have added : o.add (.header key value) =
          .ok { o with headers := o.headers.insertEntry e } := by
        rw [add, withHeader_of_room ((Bool.not_eq_true' _).mp now), judged]
        rfl
      have next : o.attemptAll (.header key value :: rest) =
          Options.attemptAll { o with headers := o.headers.insertEntry e } rest := by
        rw [attemptAll, List.foldl_cons, attempt, added]
        rfl
      rw [addAll, added, next]
      exact ih later others

/-! ## A crowd -/

/-- A header under each name of the crowd. -/
@[irreducible] def crowdSteps : List OptionStep := Http.crowd.map (.header · "")

theorem mem_crowdSteps {step : OptionStep} :
    step ∈ crowdSteps ↔ ∃ name ∈ Http.crowd, .header name "" = step := by
  rw [crowdSteps, List.mem_map]

/-- Each of them is accepted by itself. -/
theorem header_of_mem_crowd {name : String} (mem : name ∈ Http.crowd) :
    Options.header name "" = .ok (name, []) := by
  rw [Options.header, Http.metadataName?_of_mem_crowd mem]
  rfl

theorem acceptedHeaders_crowdSteps : acceptedHeaders crowdSteps = Http.crowd.map (·, []) := by
  rw [acceptedHeaders, crowdSteps, List.filterMap_map, ← List.filterMap_eq_map]
  refine List.filterMap_congr fun name mem => ?_
  show (Options.header name "").toOption = _
  rw [header_of_mem_crowd mem]
  rfl

theorem acceptedKeys_crowdSteps : acceptedKeys crowdSteps = Http.crowd.toFinset := by
  rw [acceptedKeys, acceptedHeaders_crowdSteps, List.map_map]
  exact congrArg List.toFinset (List.map_id _)

theorem card_crowd : Http.crowd.toFinset.card = 6564 := by
  rw [List.toFinset_card_of_nodup Http.nodup_crowd, Http.length_crowd]

theorem lastDuration?_crowdSteps : lastDuration? crowdSteps = none := by
  refine lastDuration?_eq_none fun step mem => ?_
  obtain ⟨name, -, rfl⟩ := mem_crowdSteps.mp mem
  rfl

/-- All of them find room, and no header after them does. -/
theorem crowdSteps_fill :
    HaveRoom crowdSteps ∧
      (({} : Options).attemptAll crowdSteps).headers =
        Headers.insertAll {} (acceptedHeaders crowdSteps) ∧
      (({} : Options).attemptAll crowdSteps).headers.isFull = true := by
  have named : (acceptedHeaders crowdSteps).map (·.1) = Http.crowd := by
    rw [acceptedHeaders_crowdSteps, List.map_map]
    exact List.map_id _
  obtain ⟨room, full⟩ := Headers.crowd_fills named
  have built : (({} : Options).attemptAll crowdSteps).headers = _ :=
    congrArg Options.headers (Options.attemptAll_of_haveRoom room)
  exact ⟨room, built, built ▸ full⟩

theorem addAll_crowdSteps :
    ({} : Options).addAll crowdSteps = .ok (({} : Options).attemptAll crowdSteps) := by
  refine Options.addAll_of_room crowdSteps_fill.1 fun key value mem => ?_
  obtain ⟨name, inside, same⟩ := mem_crowdSteps.mp mem
  cases same
  exact ⟨_, header_of_mem_crowd inside⟩

/-- They say nothing about names that are longer or shorter. -/
theorem value?_of_mem_crowdSteps {name : String} (other : name.toList.length ≠ 4)
    (other' : name.toList.length ≠ 36) : ∀ step ∈ crowdSteps, step.value? name = none := by
  intro step mem
  obtain ⟨own, inside, rfl⟩ := mem_crowdSteps.mp mem
  rw [OptionStep.value?, Http.metadataName?_of_mem_crowd inside]
  refine if_neg fun same => ?_
  cases same
  rcases Http.length_of_mem_crowd inside with length | length
  · exact other length
  · exact other' length

end Courier
