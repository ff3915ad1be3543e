import Courier.Proofs.Call.SentHeaders

/-!
# Options as a map of last values

Whatever steps were taken so far, and whatever steps follow, options hold what the last steps said:
the last deadline and, under every key in lower case, the value that was accepted last, once
(`keeps_attemptAll`). A step that is refused leaves no trace, and what a step is refused for
depends on its key first and then on its value. The steps before it only count where they have filled
the header map.
-/

namespace Courier

open Http (Headers)

/-! ## Steps taken first -/

/-- If all steps find room, so do those taken first. -/
theorem HaveRoom.of_prefix {front steps : List OptionStep} (room : HaveRoom steps)
    (part : front <+: steps) : HaveRoom front := by
  obtain ⟨rest, rfl⟩ := part
  rw [HaveRoom, acceptedHeaders, List.filterMap_append, Headers.takes_append] at room
  exact (Bool.and_eq_true_iff.mp room).1

/-- The map is not full when it is the turn of a header that is accepted. -/
theorem HaveRoom.isFull_eq_false {front : List OptionStep} {key value : String}
    (room : HaveRoom (front ++ [.header key value])) {entry : String × Bytes}
    (accepted : Options.header key value = .ok entry) :
    (({} : Options).attemptAll front).headers.isFull = false := by
  have own : acceptedHeaders [.header key value] = [entry] := by
    rw [Options.acceptedHeaders_cons, OptionStep.entry?, accepted]
    rfl
  have both : acceptedHeaders (front ++ [.header key value]) = acceptedHeaders front ++ [entry] := by
    rw [← own, acceptedHeaders, List.filterMap_append]
    rfl
  rw [Options.attemptAll_of_haveRoom (room.of_prefix (List.prefix_append _ _))]
  rw [HaveRoom, both, Headers.takes_append] at room
  have last := (Bool.and_eq_true_iff.mp room).2
  exact (Bool.not_eq_true' _).mp (Bool.and_eq_true_iff.mp last).1

/-! ## What options keep -/

/-- Options that hold what a row of steps said last, and nothing else. -/
structure Options.Keeps (o : Options) (steps : List OptionStep) : Prop where
  timeout : o.timeout = lastDuration? steps
  values : ∀ name, o.headers.values name = (lastAccepted? name steps).toList
  length : o.headers.entries.length = (acceptedKeys steps).card

namespace Options

variable {steps : List OptionStep}

/-- Steps that find room leave their last values. -/
theorem keeps_attemptAll (room : HaveRoom steps) : (({} : Options).attemptAll steps).Keeps steps := by
  have start : ({} : Headers).IsSingle := fun f mem => absurd mem List.not_mem_nil
  have single := start.insertAll (acceptedHeaders steps)
  rw [attemptAll_of_haveRoom room]
  exact
    { timeout := rfl
      values := values_insertAll_empty steps
      length := by rw [single.length_entries, names_insertAll_empty] }

theorem attemptAll_concat (o : Options) (steps : List OptionStep) (step : OptionStep) :
    o.attemptAll (steps ++ [step]) = (o.attemptAll steps).attempt step := by
  rw [attemptAll, List.foldl_append]
  rfl

end Options

/-- What comes of a header behind a row of steps. A key that is no name is refused as it is given,
whatever the value is; a value is refused only under a key that is a name; any other header counts
as the next step, unless the map is full. -/
inductive HeaderVerdict (steps : List OptionStep) (key value : String) :
    Except HeaderFault Options → Prop
  | badKey : metadataName? key = none → HeaderVerdict steps key value (.error (.invalidKey key))
  | badValue : metadataName? key = some (key.map Char.toLower) →
      Http.isHeaderValue value = false → HeaderVerdict steps key value (.error (.invalidValue key))
  | noRoom : metadataName? key = some (key.map Char.toLower) → Http.isHeaderValue value = true →
      (({} : Options).attemptAll steps).headers.isFull = true →
      HeaderVerdict steps key value (.error .noRoom)
  | accepted : metadataName? key = some (key.map Char.toLower) → Http.isHeaderValue value = true →
      HeaderVerdict steps key value
        (.ok (({} : Options).attemptAll (steps ++ [.header key value])))

namespace Options

variable {steps : List OptionStep}

theorem headerVerdict (steps : List OptionStep) (key value : String) :
    HeaderVerdict steps key value ((({} : Options).attemptAll steps).withHeader key value) := by
  rcases header_cases key value with
    ⟨bad, refused⟩ | ⟨named, bad, refused⟩ | ⟨named, fine, taken⟩
  · rw [withHeader, refused]
    exact .badKey bad
  · rw [withHeader, refused]
    exact .badValue named bad
  · cases full : (({} : Options).attemptAll steps).headers.isFull with
    | true =>
      rw [withHeader_of_full full taken]
      exact .noRoom named fine full
    | false =>
      have next : (({} : Options).attemptAll steps).withHeader key value =
          .ok (({} : Options).attemptAll (steps ++ [.header key value])) := by
        rw [attemptAll_concat, attempt, add, withHeader_of_room full, taken]
        rfl
      rw [next]
      exact .accepted named fine

/-- In a row that finds room, a header is accepted in its turn if it is accepted by itself. -/
theorem entry?_header {front : List OptionStep} {key value : String}
    (room : HaveRoom (front ++ [.header key value])) :
    OptionStep.entry? (.header key value) =
      ((({} : Options).attemptAll front).withHeader key value).toOption.map fun _ =>
        (key.map Char.toLower, utf8 value) := by
  rw [OptionStep.entry?]
  rcases header_cases key value with ⟨-, judged⟩ | ⟨-, -, judged⟩ | ⟨-, -, judged⟩
  · rw [withHeader, judged]
    rfl
  · rw [withHeader, judged]
    rfl
  · rw [withHeader_of_room (room.isFull_eq_false judged), judged]
    rfl

end Options

end Courier
