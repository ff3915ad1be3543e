import Courier.CommandLine.Run
import Courier.Proofs.Call.Attempts

/-!
# Options from a list of headers

A command line gives its headers all at once. As long as they find room, each header is judged by
itself: if all are accepted, the options hold the last value of every name, and otherwise the first one
that is refused decides, whatever stands in front of it and behind it. `withHeaders_cases` lists this
and the one case that is left, that a header finds the map full. With fewer than 6,554 names none does;
behind a crowd, the next header does.
-/

namespace Courier

open Http (Headers)

namespace Options

/-! ## One header by itself -/

/-- Options without any header accept this one. -/
def Accepts (key value : String) : Prop := ∃ o, ({} : Options).withHeader key value = .ok o

theorem withHeader_empty (key value : String) :
    ({} : Options).withHeader key value =
      (header key value).map fun e => { headers := ({} : Headers).insert e.1 e.2 } :=
  withHeader_of_room (by decide) key value

theorem withHeader_empty_eq_error_iff {key value : String} {fault : HeaderFault} :
    ({} : Options).withHeader key value = .error fault ↔ header key value = .error fault := by
  rw [withHeader_empty]
  cases header key value with
  | error other =>
    constructor
    · intro same
      cases same
      rfl
    · intro same
      cases same
      rfl
  | ok entry => exact ⟨nofun, nofun⟩

/-- A header is accepted as its key in lower case with its value, or it is refused for one of
them. -/
theorem accepts_or_refused (key value : String) :
    (Accepts key value ∧ metadataName? key = some (key.map Char.toLower) ∧
      header key value = .ok (key.map Char.toLower, utf8 value)) ∨
    ¬Accepts key value ∧ ∃ fault, header key value = .error fault ∧ fault ≠ .noRoom := by
  unfold Accepts
  rw [withHeader_empty]
  rcases header_cases key value with ⟨-, judged⟩ | ⟨-, -, judged⟩ | ⟨named, -, judged⟩
  · rw [judged]
    exact .inr ⟨nofun, _, rfl, nofun⟩
  · rw [judged]
    exact .inr ⟨nofun, _, rfl, nofun⟩
  · rw [judged]
    exact .inl ⟨⟨_, rfl⟩, named, rfl⟩

/-- What an accepted header is called and how it is kept. -/
theorem Accepts.header_eq {key value : String} (accepted : Accepts key value) :
    metadataName? key = some (key.map Char.toLower) ∧
      header key value = .ok (key.map Char.toLower, utf8 value) := by
  rcases accepts_or_refused key value with ⟨-, kept⟩ | ⟨refused, -⟩
  · exact kept
  · exact absurd accepted refused

theorem not_accepts_of_header {key value : String} {fault : HeaderFault}
    (refused : header key value = .error fault) : ¬Accepts key value := by
  intro accepted
  rw [accepted.header_eq.2] at refused
  cases refused

/-- A list of headers is accepted throughout, or there is a first one that is refused. -/
theorem exists_refused (headers : List (String × String)) :
    (∀ h ∈ headers, Accepts h.1 h.2) ∨
    ∃ before key value after fault, headers = before ++ (key, value) :: after ∧
      (∀ h ∈ before, Accepts h.1 h.2) ∧ header key value = .error fault ∧ fault ≠ .noRoom := by
  induction headers with
  | nil => exact .inl nofun
  | cons first rest ih =>
    obtain ⟨key, value⟩ := first
    rcases accepts_or_refused key value with ⟨accepted, -⟩ | ⟨-, fault, refused, named⟩
    · rcases ih with all | ⟨before, key', value', after, fault, rfl, allowed, refused⟩
      · exact .inl (List.forall_mem_cons.mpr ⟨accepted, all⟩)
      · exact .inr ⟨(key, value) :: before, key', value', after, fault, rfl,
          List.forall_mem_cons.mpr ⟨accepted, allowed⟩, refused⟩
    · exact .inr ⟨[], key, value, rest, fault, rfl, nofun, refused, named⟩

/-! ## Names -/

/-- The names of the keys that are names of metadata. -/
def keyNames (headers : List (String × String)) : Finset String :=
  (headers.filterMap fun h => metadataName? h.1).toFinset

theorem card_keyNames_le (headers : List (String × String)) :
    (keyNames headers).card ≤ headers.length :=
  (List.toFinset_card_le _).trans (List.length_filterMap_le _ _)

theorem keyNames_append (headers more : List (String × String)) :
    keyNames (headers ++ more) = keyNames headers ∪ keyNames more := by
  rw [keyNames, List.filterMap_append, List.toFinset_append, keyNames, keyNames]

/-- What a header is kept as: its key in lower case and its value. -/
def entryOf (h : String × String) : String × Bytes := (h.1.map Char.toLower, utf8 h.2)

/-- Accepted headers are kept under the names of their keys. -/
theorem names_entryOf {headers : List (String × String)}
    (accepted : ∀ h ∈ headers, Accepts h.1 h.2) :
    ((headers.map entryOf).map (·.1)).toFinset = keyNames headers := by
  have named : ∀ h ∈ headers, metadataName? h.1 = some (h.1.map Char.toLower) := fun h mem =>
    (accepted h mem).header_eq.1
  rw [keyNames, List.filterMap_congr named, List.map_map]
  exact congrArg List.toFinset (congrFun List.filterMap_eq_map headers).symm

/-! ## Headers one after the other -/

variable {o : Options} {headers : List (String × String)}

/-- Headers that are all accepted by themselves are inserted one after the other, unless one of them
finds the map full. -/
theorem withHeaders_of_accepted (accepted : ∀ h ∈ headers, Accepts h.1 h.2) :
    o.withHeaders headers =
      if o.headers.takes Headers.insertEntry (headers.map entryOf) then
        .ok { o with headers := o.headers.insertAll (headers.map entryOf) }
      else .error .noRoom := by
  induction headers generalizing o with
  | nil => rfl
  | cons first rest ih =>
    obtain ⟨key, value⟩ := first
    obtain ⟨now, later⟩ := List.forall_mem_cons.mp accepted
    have judged := now.header_eq.2
    rw [withHeaders, List.map_cons, Headers.takes]
    cases full : o.headers.isFull with
    | true =>
      rw [withHeader_of_full full judged]
      rfl
    | false =>
      have taken : o.withHeader key value =
          .ok { o with headers := o.headers.insertEntry (entryOf (key, value)) } := by
        rw [withHeader_of_room full, judged]
        rfl
      rw [taken]
      exact ih later

theorem withHeaders_append (o : Options) (headers more : List (String × String)) :
    o.withHeaders (headers ++ more) =
      match o.withHeaders headers with
      | .error fault => .error fault
      | .ok o' => o'.withHeaders more := by
  induction headers generalizing o with
  | nil => rfl
  | cons first rest ih =>
    obtain ⟨key, value⟩ := first
    rw [List.cons_append, withHeaders, withHeaders]
    cases o.withHeader key value with
    | error fault => rfl
    | ok next => exact ih next

/-- Accepted headers that do not all find room come to one that finds the map full. -/
theorem exists_full_of_accepted (accepted : ∀ h ∈ headers, Accepts h.1 h.2)
    (refused : o.headers.takes Headers.insertEntry (headers.map entryOf) = false) :
    ∃ before key value after o', headers = before ++ (key, value) :: after ∧
      (∀ h ∈ before, Accepts h.1 h.2) ∧ Accepts key value ∧ o.withHeaders before = .ok o' ∧
      o'.headers.isFull = true := by
  obtain ⟨front, e, back, parts, room, full⟩ := Headers.exists_full_of_takes_eq_false refused
  obtain ⟨before, behind, rfl, rfl, rest⟩ := List.map_eq_append_iff.mp parts
  obtain ⟨⟨key, value⟩, after, rfl, -, -⟩ := List.map_eq_cons_iff.mp rest
  obtain ⟨early, now⟩ := List.forall_mem_append.mp accepted
  have built := (withHeaders_of_accepted (o := o) early).trans (if_pos room)
  exact ⟨before, key, value, after, _, rfl, early, now _ List.mem_cons_self, built, full⟩

/-- What comes of a list of headers. They are all accepted; or the first one that is refused decides,
before there is any question of room, and what stands behind it is not looked at; or one that is accepted
by itself finds the map full. -/
theorem withHeaders_cases (o : Options) (headers : List (String × String)) :
    ((∀ h ∈ headers, Accepts h.1 h.2) ∧
      o.withHeaders headers =
        .ok { o with headers := o.headers.insertAll (headers.map entryOf) }) ∨
    (∃ before key value after fault, headers = before ++ (key, value) :: after ∧
      (∀ h ∈ before, Accepts h.1 h.2) ∧ header key value = .error fault ∧ fault ≠ .noRoom ∧
      o.withHeaders headers = .error fault) ∨
    ∃ before key value after o', headers = before ++ (key, value) :: after ∧
      (∀ h ∈ before, Accepts h.1 h.2) ∧ Accepts key value ∧ o.withHeaders before = .ok o' ∧
      o'.headers.isFull = true ∧ o.withHeaders headers = .error .noRoom := by
  rcases exists_refused headers with
    all | ⟨before, key, value, after, fault, rfl, accepted, refused, named⟩
  · have together := withHeaders_of_accepted (o := o) all
    cases room : o.headers.takes Headers.insertEntry (headers.map entryOf) with
    | true =>
      rw [room] at together
      exact .inl ⟨all, together⟩
    | false =>
      rw [room] at together
      obtain ⟨before, key, value, after, o', same, early, now, built, full⟩ :=
        exists_full_of_accepted all room
      exact .inr (.inr ⟨before, key, value, after, o', same, early, now, built, full, together⟩)
  · right
    rw [withHeaders_append]
    have together := withHeaders_of_accepted (o := o) accepted
    cases room : o.headers.takes Headers.insertEntry (before.map entryOf) with
    | true =>
      rw [room, if_pos rfl] at together
      refine .inl ⟨before, key, value, after, fault, rfl, accepted, refused, named, ?_⟩
      rw [together]
      dsimp only
      rw [withHeaders, withHeader, refused]
    | false =>
      rw [room] at together
      obtain ⟨front, key', value', back, o', rfl, early, now, built, full⟩ :=
        exists_full_of_accepted accepted room
      refine .inr ⟨front, key', value', back ++ (key, value) :: after, o', ?_, early, now, built,
        full, ?_⟩
      · rw [List.append_assoc, List.cons_append]
      · rw [together]
        rfl

/-- Headers with few names all find room. -/
theorem withHeaders_ne_noRoom (few : (o.headers.names ∪ keyNames headers).card < 6554) :
    o.withHeaders headers ≠ .error .noRoom := by
  intro refused
  rcases withHeaders_cases o headers with
    ⟨-, same⟩ | ⟨-, -, -, -, fault, -, -, -, named, same⟩ |
    ⟨before, key, value, after, o', rfl, accepted, -, built, full, -⟩
  · rw [refused] at same
    cases same
  · rw [refused] at same
    exact named (Except.error.inj same).symm
  · rw [withHeaders_of_accepted accepted] at built
    split at built
    · cases built
      have known : ((o.headers.insertAll (before.map entryOf)).names) ⊆
          o.headers.names ∪ keyNames (before ++ (key, value) :: after) := by
        rw [Headers.names_insertAll, names_entryOf accepted, keyNames_append]
        exact Finset.union_subset_union_right Finset.subset_union_left
      rw [Headers.isFull_of_few (Nat.lt_of_le_of_lt (Finset.card_le_card known) few)] at full
      cases full
    · cases built

/-- A deadline makes no difference to headers. -/
theorem withHeaders_withTimeout (o : Options) (t : Option Duration)
    (headers : List (String × String)) :
    withHeaders { o with timeout := t } headers =
      (o.withHeaders headers).map fun o' => { o' with timeout := t } := by
  induction headers generalizing o with
  | nil => rfl
  | cons first rest ih =>
    obtain ⟨key, value⟩ := first
    unfold withHeaders withHeader
    cases header key value with
    | error fault => rfl
    | ok e =>
      dsimp only
      cases o.headers.isFull with
      | true => rfl
      | false => exact ih { o with headers := o.headers.insert e.1 e.2 }

/-- Headers are accepted together only if each of them is. -/
theorem header_of_withHeaders {o' : Options} (accepted : o.withHeaders headers = .ok o') :
    ∀ h ∈ headers, ∃ entry, header h.1 h.2 = .ok entry := by
  induction headers generalizing o with
  | nil => exact nofun
  | cons first rest ih =>
    obtain ⟨key, value⟩ := first
    unfold withHeaders withHeader at accepted
    cases judged : header key value with
    | error fault =>
      rw [judged] at accepted
      cases accepted
    | ok entry =>
      rw [judged] at accepted
      split at accepted
      · cases accepted
      · exact List.forall_mem_cons.mpr ⟨⟨entry, judged⟩, ih accepted⟩

/-- The last value under a key in lower case, in a list of headers. -/
def lastOf? (name : String) (headers : List (String × String)) : Option String :=
  ((headers.filter fun h => h.1.map Char.toLower == name).getLast?).map (·.2)

/-- Of accepted headers, the last one of each name is kept. -/
theorem values_insertAll_entryOf (headers : List (String × String)) (name : String) :
    (Headers.insertAll {} (headers.map entryOf)).values name =
      ((lastOf? name headers).map utf8).toList := by
  have values : Headers.valuesIn name (headers.map entryOf) =
      (headers.filter fun h => h.1.map Char.toLower == name).map fun h => utf8 h.2 := by
    rw [Headers.valuesIn, List.filter_map, List.map_map]
    rfl
  rw [Headers.values_insertAll, values, List.getLast?_map, lastOf?]
  cases (headers.filter fun h => h.1.map Char.toLower == name).getLast? with
  | none => rfl
  | some h => rfl

end Options

namespace CommandLine

open Options (Accepts keyNames lastOf?)

variable {headers : List (String × String)}

/-- No header that is accepted by itself finds the map full, up to the first one that is refused. -/
def FindRoom (headers : List (String × String)) : Prop :=
  ({} : Options).withHeaders headers ≠ .error .noRoom

theorem findRoom_of_few (few : (keyNames headers).card < 6554) : FindRoom headers := by
  refine Options.withHeaders_ne_noRoom ?_
  show (∅ ∪ keyNames headers).card < 6554
  rw [Finset.empty_union]
  exact few

/-- Without room the headers of a command line are refused, whatever the deadline is. -/
theorem callOptions_of_not_findRoom (crowded : ¬FindRoom headers) (timeoutMs : Option Nat) :
    callOptions headers timeoutMs = .error .noRoom := by
  rw [callOptions, Options.withHeaders_withTimeout {}, not_not.mp crowded]
  rfl

theorem findRoom_of_callOptions {timeoutMs : Option Nat}
    (taken : callOptions headers timeoutMs ≠ .error .noRoom) : FindRoom headers :=
  fun crowded => taken (callOptions_of_not_findRoom (not_not.mpr crowded) timeoutMs)

/-- With room, headers are accepted together, or the first one that is refused decides. -/
theorem callOptions_cases (room : FindRoom headers) (timeoutMs : Option Nat) :
    ((∀ h ∈ headers, Accepts h.1 h.2) ∧
      callOptions headers timeoutMs =
        .ok
          { timeout := timeoutMs.map .ofMillis
            headers := Headers.insertAll {} (headers.map Options.entryOf) }) ∨
    ∃ before key value after fault, headers = before ++ (key, value) :: after ∧
      (∀ h ∈ before, Accepts h.1 h.2) ∧ Options.header key value = .error fault ∧
      fault ≠ .noRoom ∧ callOptions headers timeoutMs = .error fault := by
  rw [callOptions, Options.withHeaders_withTimeout {}]
  rcases Options.withHeaders_cases {} headers with
    ⟨all, same⟩ | ⟨before, key, value, after, fault, parts, accepted, refused, named, same⟩ |
    ⟨-, -, -, -, -, -, -, -, -, -, same⟩
  · rw [same]
    exact .inl ⟨all, rfl⟩
  · rw [same]
    exact .inr ⟨before, key, value, after, fault, parts, accepted, refused, named, rfl⟩
  · exact absurd same room

/-- The first header that is refused decides, if those in front of it find room. -/
theorem callOptions_of_refused {before after : List (String × String)} {key value : String}
    {fault : HeaderFault} (room : FindRoom before) (accepted : ∀ h ∈ before, Accepts h.1 h.2)
    (refused : Options.header key value = .error fault) (timeoutMs : Option Nat) :
    callOptions (before ++ (key, value) :: after) timeoutMs = .error fault := by
  rcases callOptions_cases room timeoutMs with
    ⟨-, same⟩ | ⟨front, key', value', back, fault', rfl, -, refused', -⟩
  · rw [callOptions] at same
    rw [callOptions, Options.withHeaders_append, same]
    dsimp only
    rw [Options.withHeaders, Options.withHeader, refused]
  · have taken := accepted (key', value') (List.mem_append_right _ List.mem_cons_self)
    exact absurd taken (Options.not_accepts_of_header refused')

/-- Headers that do not find room come to one that is accepted by itself and finds the map full. -/
theorem exists_full_of_not_findRoom (crowded : ¬FindRoom headers) (timeoutMs : Option Nat) :
    ∃ before key value after o, headers = before ++ (key, value) :: after ∧
      (∀ h ∈ before, Accepts h.1 h.2) ∧ Accepts key value ∧
      callOptions before timeoutMs = .ok o ∧ o.withHeader key value = .error .noRoom := by
  have refused := callOptions_of_not_findRoom crowded timeoutMs
  rw [callOptions] at refused
  rcases Options.withHeaders_cases { timeout := timeoutMs.map .ofMillis } headers with
    ⟨-, same⟩ | ⟨-, -, -, -, fault, -, -, -, named, same⟩ |
    ⟨before, key, value, after, o, parts, accepted, now, built, full, -⟩
  · rw [refused] at same
    cases same
  · rw [refused] at same
    exact absurd (Except.error.inj same).symm named
  · exact ⟨before, key, value, after, o, parts, accepted, now, built,
      Options.withHeader_of_full full now.header_eq.2⟩

/-- Headers of which one comes twice, in different cases. -/
def repeatedHeaders : List (String × String) :=
  [("X-Trace", "first"), ("x-tenant", "größe"), ("x-trace", "second")]

/-- The crowd as a list of headers, and a header behind it. -/
@[irreducible] def crowdedHeaders : List (String × String) :=
  Http.crowd.map (·, "") ++ [("x-trace", "v")]

end CommandLine

end Courier
