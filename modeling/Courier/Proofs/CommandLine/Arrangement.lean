import Courier.Proofs.CommandLine.Words

/-!
# Arrangements of the words of `send`

The flags of `send` may stand anywhere among its places, in any order: only the places keep their
order among themselves, and the headers theirs. `Arranged` is a row of words of which each kind is
given by itself, and all such rows are read alike (`arranged_line_is_parsed`). What carries this is
that a scan holds what it has been told of each kind (`Holds`); a word adds to its own kind alone
(`Holds.step`), and so does a row of words to all kinds (`Holds.steps`).
-/

namespace Courier.CommandLine

/-- A word of the command `send`. -/
inductive Word where
  | topic (value : String)
  | header (spelling : String)
  | timeout (ms : Nat)
  /-- A text that fills the next place. -/
  | place (value : String)

namespace Word

/-- A word as it is written. -/
def text : Word → String
  | topic value => flag .topic value
  | header spelling => flag .header spelling
  | timeout ms => flag .timeout (toString ms)
  | place value => value

def topic? : Word → Option String
  | topic value => some value
  | _ => none

def header? : Word → Option String
  | header spelling => some spelling
  | _ => none

def timeout? : Word → Option Nat
  | timeout ms => some ms
  | _ => none

def place? : Word → Option String
  | place value => some value
  | _ => none

/-- A word that is read as what it is. Once no options follow, only places are. -/
def IsReadable (trailing : Bool) : Word → Prop
  | topic _ => trailing = false
  | header spelling => trailing = false ∧ ':' ∈ spelling.toList
  | timeout ms => trailing = false ∧ ms ≤ Text.Decimal.maxNumber
  | place value => trailing = true ∨ value.toList.head? ≠ some '-'

end Word

/-- Words that give this topic, these headers, this deadline and these places: of each kind exactly
those, in their order, and the kinds among each other in any order. -/
structure Arranged (ws : List Word) (topic : Option String) (headers : List String)
    (timeoutMs : Option Nat) (places : List String) : Prop where
  topic : ws.filterMap Word.topic? = topic.toList
  headers : ws.filterMap Word.header? = headers
  timeout : ws.filterMap Word.timeout? = timeoutMs.toList
  places : ws.filterMap Word.place? = places

/-! ## What has been said -/

/-- What has been said of each kind. -/
structure Said where
  topics : List String := []
  headers : List String := []
  timeouts : List Nat := []
  places : List String := []

namespace Said

/-- A word adds to its own kind. -/
def add (m : Said) : Word → Said
  | .topic value => { m with topics := m.topics ++ [value] }
  | .header spelling => { m with headers := m.headers ++ [spelling] }
  | .timeout ms => { m with timeouts := m.timeouts ++ [ms] }
  | .place value => { m with places := m.places ++ [value] }

/-- A row of words adds to each kind what it has of it. -/
theorem foldl_add (m : Said) (ws : List Word) :
    ws.foldl add m =
      { topics := m.topics ++ ws.filterMap Word.topic?
        headers := m.headers ++ ws.filterMap Word.header?
        timeouts := m.timeouts ++ ws.filterMap Word.timeout?
        places := m.places ++ ws.filterMap Word.place? } := by
  induction ws generalizing m with
  | nil => simp
  | cons w ws ih =>
    rw [List.foldl_cons, ih]
    cases w <;>
      simp [add, List.filterMap_cons, Word.topic?, Word.header?, Word.timeout?, Word.place?]

/-- Nothing has been said too often. -/
structure IsSparse (m : Said) : Prop where
  topics : m.topics.length ≤ 1
  timeouts : m.timeouts.length ≤ 1
  places : m.places.length ≤ 2

/-- What is not too often in the end has never been. -/
theorem IsSparse.of_foldl {m : Said} {ws : List Word} (sparse : (ws.foldl add m).IsSparse) :
    m.IsSparse := by
  rw [foldl_add] at sparse
  obtain ⟨topics, timeouts, places⟩ := sparse
  simp only [List.length_append] at topics timeouts places
  exact ⟨by omega, by omega, by omega⟩

/-- Whether what may be given only once has been. -/
def Has (m : Said) : Target → Prop
  | .setting .topic => m.topics ≠ []
  | .setting .timeout => m.timeouts ≠ []
  | .setting .header | .slot _ => True

theorem Has.add {m : Said} {t : Target} (has : m.Has t) (w : Word) : (m.add w).Has t := by
  match t with
  | .setting .topic => cases w <;> simp_all [Has, Said.add]
  | .setting .timeout => cases w <;> simp_all [Has, Said.add]
  | .setting .header => trivial
  | .slot _ => trivial

end Said

theorem Arranged.foldl_add {ws : List Word} {topic : Option String} {headers : List String}
    {timeoutMs : Option Nat} {places : List String}
    (arranged : Arranged ws topic headers timeoutMs places) (m : Said) :
    ws.foldl Said.add m =
      { topics := m.topics ++ topic.toList
        headers := m.headers ++ headers
        timeouts := m.timeouts ++ timeoutMs.toList
        places := m.places ++ places } := by
  rw [Said.foldl_add, arranged.topic, arranged.headers, arranged.timeout, arranged.places]

/-- The place to be filled next when some have been. -/
def slotAfter : Nat → Option Slot
  | 0 => some .peerId
  | 1 => some .data
  | _ => none

/-! ## What a draft holds of it -/

section Drafts

variable {m : Said} {d d' : Draft} {t u : Target} {value : String}

/-- What has been set once all of it has been said. -/
structure Told (m : Said) (d : Draft) : Prop where
  peerId : d.peerId = m.places[0]?
  data : d.data = m.places[1]?
  topic : d.topic = m.topics.getLast?
  headers : d.headers = m.headers.map keyAndValue
  timeoutMs : d.timeoutMs = m.timeouts.getLast?
  given : ∀ t ∈ d.given, m.Has t

theorem mem_given_mark : u ∈ (d.mark t).given ↔ u = t ∨ u ∈ d.given := by
  unfold Draft.mark
  by_cases known : t ∈ d.given
  · simp only [List.contains_iff_mem, known, if_true]
    constructor
    · exact .inr
    · rintro (rfl | other)
      · exact known
      · exact other
  · simp [known, or_comm]

/-- A value that can be stored is assigned, unless its setting may not be given again. -/
theorem assign_of_store (fresh : d.repeated? t = none)
    (stored : (d.mark t).store t value = .ok d') :
    d.assign t (Argument.ofText value) = (d', none) := by
  have spelled : (Argument.ofText value).text? = some value := Text.Utf8.text?_ofText value
  rw [Draft.assign, fresh]
  dsimp only
  rw [spelled]
  dsimp only
  rw [stored]

namespace Told

theorem repeated?_of_not_has {t : Setting} (told : Told m d) (first : ¬m.Has (.setting t)) :
    d.repeated? (.setting t) = none := by
  have notGiven : .setting t ∉ d.given := fun mem => first (told.given _ mem)
  simp [Draft.repeated?, notGiven]

theorem given_mark (told : Told m d) {w : Word} (has : (m.add w).Has t) :
    ∀ u ∈ (d.mark t).given, (m.add w).Has u := by
  intro u mem
  rcases mem_given_mark.mp mem with rfl | before
  · exact has
  · exact (told.given u before).add w

theorem assign_topic (told : Told m d) (first : m.topics = []) (value : String) :
    ∃ d', d.assign (.setting .topic) (Argument.ofText value) = (d', none) ∧
      Told (m.add (.topic value)) d' := by
  have fresh := told.repeated?_of_not_has (t := .topic) (by simp [Said.Has, first])
  refine ⟨{ d.mark (.setting .topic) with topic := some value }, assign_of_store fresh rfl, ?_⟩
  exact
    { told with
      topic := by simp [Said.add]
      given := told.given_mark (by simp [Said.Has, Said.add]) }

theorem assign_header (told : Told m d) {spelling : String} (colon : ':' ∈ spelling.toList) :
    ∃ d', d.assign (.setting .header) (Argument.ofText spelling) = (d', none) ∧
      Told (m.add (.header spelling)) d' := by
  have stored : (d.mark (.setting .header)).store (.setting .header) spelling =
      .ok { d.mark (.setting .header) with headers := d.headers ++ [keyAndValue spelling] } := by
    rw [Draft.store, parseHeader_of_mem colon]
    rfl
  refine ⟨_, assign_of_store rfl stored, ?_⟩
  exact
    { told with
      headers := by simp [Said.add, told.headers]
      given := told.given_mark trivial }

theorem assign_timeout (told : Told m d) (first : m.timeouts = []) {ms : Nat}
    (small : ms ≤ Text.Decimal.maxNumber) :
    ∃ d', d.assign (.setting .timeout) (Argument.ofText (toString ms)) = (d', none) ∧
      Told (m.add (.timeout ms)) d' := by
  have fresh := told.repeated?_of_not_has (t := .timeout) (by simp [Said.Has, first])
  have stored : (d.mark (.setting .timeout)).store (.setting .timeout) (toString ms) =
      .ok { d.mark (.setting .timeout) with timeoutMs := some ms } := by
    rw [Draft.store, Text.Decimal.read_toString small]
  refine ⟨_, assign_of_store fresh stored, ?_⟩
  exact
    { told with
      timeoutMs := by simp [Said.add]
      given := told.given_mark (by simp [Said.Has, Said.add]) }

/-- The place that is filled next is the first one or the second one. -/
theorem assign_place (told : Told m d) {slot : Slot} (next : slotAfter m.places.length = some slot)
    (value : String) :
    ∃ d', d.assign (.slot slot) (Argument.ofText value) = (d', none) ∧
      Told (m.add (.place value)) d' := by
  match places : m.places with
  | [] =>
    rw [places] at next
    cases next
    refine ⟨{ d.mark (.slot .peerId) with peerId := some value }, assign_of_store rfl rfl, ?_⟩
    exact
      { told with
        peerId := by simp [Said.add, places]
        data := by simp [Said.add, Draft.mark, told.data, places]
        given := told.given_mark trivial }
  | [first] =>
    rw [places] at next
    cases next
    refine ⟨{ d.mark (.slot .data) with data := some value }, assign_of_store rfl rfl, ?_⟩
    exact
      { told with
        peerId := by simp [Said.add, Draft.mark, told.peerId, places]
        data := by simp [Said.add, places]
        given := told.given_mark trivial }
  | _ :: _ :: _ =>
    rw [places] at next
    cases next

end Told

end Drafts

/-! ## What a scan holds of it -/

section Scans

variable {m : Said} {trailing : Bool} {s : Scan} {w : Word}

/-- A scan to which this has been said: once its pending value is set, all of it is. -/
structure Holds (m : Said) (trailing : Bool) (s : Scan) : Prop where
  settled : ∃ d, s.settled = (d, none) ∧ Told m d
  trailing : s.trailing = trailing
  slot : s.slot = slotAfter m.places.length

theorem slotAfter_next? {n : Nat} {slot : Slot} (next : slotAfter n = some slot) :
    slot.next? = slotAfter (n + 1) := by
  match n with
  | 0 => cases next; rfl
  | 1 => cases next; rfl
  | _ + 2 => cases next

/-- A flag that can be assigned leaves nothing pending and fills no place. -/
theorem Holds.flag (holds : Holds m false s) {t : Setting} {value : String} {m' : Said}
    (places : m'.places = m.places)
    (assigns : ∀ d, Told m d →
      ∃ d', d.assign (.setting t) (Argument.ofText value) = (d', none) ∧ Told m' d') :
    ∃ s', s.step (Argument.ofText (CommandLine.flag t value)) = .ok s' ∧ Holds m' false s' := by
  obtain ⟨d, settled, told⟩ := holds.settled
  obtain ⟨d', assigned, told'⟩ := assigns d told
  refine ⟨_, Scan.step_flag holds.trailing settled assigned, ?_⟩
  exact
    { settled := ⟨d', rfl, told'⟩
      trailing := holds.trailing
      slot := by rw [places]; exact holds.slot }

/-- Each word is taken in if it is readable and not one too many. -/
theorem Holds.step (holds : Holds m trailing s) (readable : w.IsReadable trailing)
    (sparse : (m.add w).IsSparse) :
    ∃ s', s.step (Argument.ofText w.text) = .ok s' ∧ Holds (m.add w) trailing s' := by
  cases w with
  | topic value =>
    obtain rfl : trailing = false := readable
    have first : m.topics = [] := by
      have atMost := sparse.topics
      simpa [Said.add] using atMost
    exact holds.flag rfl fun d told => told.assign_topic first value
  | header spelling =>
    obtain ⟨rfl, colon⟩ : trailing = false ∧ ':' ∈ spelling.toList := readable
    exact holds.flag rfl fun d told => told.assign_header colon
  | timeout ms =>
    obtain ⟨rfl, small⟩ : trailing = false ∧ ms ≤ Text.Decimal.maxNumber := readable
    have first : m.timeouts = [] := by
      have atMost := sparse.timeouts
      simpa [Said.add] using atMost
    exact holds.flag rfl fun d told => told.assign_timeout first small
  | place value =>
    obtain ⟨d, settled, told⟩ := holds.settled
    have room : m.places.length < 2 := by
      have atMost := sparse.places
      simpa [Said.add, Nat.lt_iff_add_one_le] using atMost
    obtain ⟨slot, next⟩ : ∃ slot, slotAfter m.places.length = some slot := by
      match m.places.length, room with
      | 0, _ => exact ⟨.peerId, rfl⟩
      | 1, _ => exact ⟨.data, rfl⟩
    have plain : s.trailing = true ∨ value.toList.head? ≠ some '-' := by
      rw [holds.trailing]
      exact readable
    -- The value is pending: it is set when the scan is settled.
    refine ⟨_, Scan.step_place plain settled (holds.slot.trans next), ?_⟩
    exact
      { settled := told.assign_place next value
        trailing := holds.trailing
        slot := by simp [Said.add, slotAfter_next? next] }

/-- So is every row of words that are readable and not too many, whatever their order. -/
theorem Holds.steps {ws : List Word} (holds : Holds m trailing s)
    (readable : ∀ w ∈ ws, w.IsReadable trailing) (sparse : (ws.foldl Said.add m).IsSparse) :
    ∃ s', s.steps ((ws.map Word.text).map Argument.ofText) = .ok s' ∧
      Holds (ws.foldl Said.add m) trailing s' := by
  induction ws generalizing m s with
  | nil => exact ⟨s, rfl, holds⟩
  | cons w ws ih =>
    obtain ⟨now, later⟩ := List.forall_mem_cons.mp readable
    obtain ⟨next, stepped, holding⟩ := holds.step now (Said.IsSparse.of_foldl sparse)
    obtain ⟨last, stepped', holding'⟩ := ih holding later sparse
    refine ⟨last, ?_, holding'⟩
    rw [List.map_cons, List.map_cons, Scan.steps, stepped]
    exact stepped'

theorem Scan.steps_append {s s' : Scan} {front : List Argument}
    (read : s.steps front = .ok s') (back : List Argument) :
    s.steps (front ++ back) = s'.steps back := by
  induction front generalizing s with
  | nil =>
    cases read
    rfl
  | cons a front ih =>
    rw [List.cons_append, Scan.steps]
    rw [Scan.steps] at read
    cases stepped : s.step a with
    | error fault =>
      rw [stepped] at read
      cases read
    | ok next =>
      rw [stepped] at read
      exact ih read

/-- Two hyphens change nothing of what has been said. -/
theorem Holds.escape (holds : Holds m false s) :
    ∃ s', s.step (Argument.ofText "--") = .ok s' ∧ Holds m true s' := by
  refine ⟨{ s with trailing := true }, ?_, ?_⟩
  · rw [Scan.step, if_neg (by simp [holds.trailing])]
    rfl
  · exact { settled := holds.settled, trailing := rfl, slot := holds.slot }

theorem Holds.start : Holds {} false {} where
  settled := by
    refine ⟨{}, rfl, ?_⟩
    exact
      { peerId := rfl
        data := rfl
        topic := rfl
        headers := rfl
        timeoutMs := rfl
        given := nofun }
  trailing := rfl
  slot := rfl

/-- Once both places have been said, the scan ends in the command that has been said. -/
theorem Holds.parseSend {args : List Argument} {topic : Option String} {headers : List String}
    {timeoutMs : Option Nat} {peerId data : String}
    (holds : Holds
      { topics := topic.toList
        headers
        timeouts := timeoutMs.toList
        places := [peerId, data] } trailing s)
    (read : Scan.steps {} args = .ok s) :
    CommandLine.parseSend args =
      .ok { peerId, data, topic, headers := headers.map keyAndValue, timeoutMs } := by
  obtain ⟨d, settled, told⟩ := holds.settled
  have first : d.peerId = some peerId := told.peerId
  have second : d.data = some data := told.data
  have named : d.topic = topic := by
    rw [told.topic]
    cases topic <;> rfl
  have timed : d.timeoutMs = timeoutMs := by
    rw [told.timeoutMs]
    cases timeoutMs <;> rfl
  rw [CommandLine.parseSend, read]
  dsimp only
  rw [Scan.settle_of_settled settled]
  dsimp only
  rw [Draft.finish, first, second, named, timed, told.headers]

end Scans

/-! ## Whole command lines -/

section Lines

variable {ws : List Word} {topic : Option String} {headers places : List String}
  {timeoutMs : Option Nat} {url peerId data : String}

namespace Arranged

theorem isReadable (arranged : Arranged ws topic headers timeoutMs places)
    (colons : ∀ h ∈ headers, ':' ∈ h.toList)
    (small : ∀ n, timeoutMs = some n → n ≤ Text.Decimal.maxNumber)
    (plain : ∀ p ∈ places, p.toList.head? ≠ some '-') : ∀ w ∈ ws, w.IsReadable false := by
  intro w mem
  cases w with
  | topic value => rfl
  | header spelling =>
    refine ⟨rfl, colons spelling ?_⟩
    rw [← arranged.headers]
    exact List.mem_filterMap.mpr ⟨_, mem, rfl⟩
  | timeout ms =>
    refine ⟨rfl, small ms ?_⟩
    rw [← Option.mem_toList, ← arranged.timeout]
    exact List.mem_filterMap.mpr ⟨_, mem, rfl⟩
  | place value =>
    refine .inr (plain value ?_)
    rw [← arranged.places]
    exact List.mem_filterMap.mpr ⟨_, mem, rfl⟩

/-- A scan takes in a whole row of words. -/
theorem steps (arranged : Arranged ws topic headers timeoutMs places)
    (readable : ∀ w ∈ ws, w.IsReadable false) (few : places.length ≤ 2) :
    ∃ s, Scan.steps {} ((ws.map Word.text).map Argument.ofText) = .ok s ∧
      Holds { topics := topic.toList, headers, timeouts := timeoutMs.toList, places } false s := by
  have said := arranged.foldl_add {}
  simp only [List.nil_append] at said
  have sparse : (ws.foldl Said.add {}).IsSparse := by
    rw [said]
    exact ⟨Option.length_toList_le, Option.length_toList_le, few⟩
  obtain ⟨s, read, holds⟩ := Holds.start.steps readable sparse
  rw [said] at holds
  exact ⟨s, read, holds⟩

end Arranged

/-- There is a row of words that gives a topic, headers and a deadline. -/
theorem exists_arranged (topic : Option String) (headers : List String) (timeoutMs : Option Nat) :
    ∃ ws, Arranged ws topic headers timeoutMs [] := by
  refine ⟨topic.toList.map .topic ++ headers.map .header ++ timeoutMs.toList.map .timeout, ?_⟩
  have others {α : Type} {kind : Word → Option α} (other : ∀ h, kind (.header h) = none) :
      (headers.map Word.header).filterMap kind = [] := by
    rw [List.filterMap_map, List.filterMap_eq_nil_iff]
    intro h _
    exact other h
  have own : (headers.map Word.header).filterMap Word.header? = headers := by
    rw [List.filterMap_map]
    exact List.filterMap_some
  constructor
  · rw [List.filterMap_append, List.filterMap_append, others fun _ => rfl]
    cases topic <;> cases timeoutMs <;> rfl
  · rw [List.filterMap_append, List.filterMap_append, own]
    cases topic <;> cases timeoutMs <;> simp [List.filterMap_cons, Word.header?]
  · rw [List.filterMap_append, List.filterMap_append, others fun _ => rfl]
    cases topic <;> cases timeoutMs <;> rfl
  · rw [List.filterMap_append, List.filterMap_append, others fun _ => rfl]
    cases topic <;> cases timeoutMs <;> rfl

/-- An address that is no option and no command is taken as the address, and `send` behind it as
the command. -/
theorem parse_send {args : List Argument} {command : SendCommand}
    (address : url.toList.head? ≠ some '-') (notSend : url ≠ sendCommand)
    (notHelp : url ≠ helpCommand) (read : parseSend args = .ok command) :
    parse (Argument.ofText url :: Argument.ofText sendCommand :: args) = .ok { url, command } := by
  have noSend : Argument.ofText url ≠ Argument.ofText sendCommand :=
    Argument.ofText_inj.not.mpr notSend
  have noHelp : Argument.ofText url ≠ Argument.ofText helpCommand :=
    Argument.ofText_inj.not.mpr notHelp
  have spelled : urlText (Argument.ofText url) = .ok url := by
    have text : (Argument.ofText url).text? = some url := Text.Utf8.text?_ofText url
    rw [urlText, text]
  have taken : parseFrom (some (Argument.ofText url)) false (Argument.ofText sendCommand :: args) =
      .ok { url, command } := by
    rw [parseFrom, if_pos (by simp), read]
    dsimp only
    rw [withCommand, spelled]
  rw [parse, parseFrom, if_neg (by simp [noSend]), if_neg (by simp [noHelp]), if_neg (by simp),
    Argument.shape_plain address]
  exact taken

/-- Every request can be written on a command line, and it is read back from each way to write it.
The flags may stand in any order around the places, or all in front of two hyphens and the places
behind: then these may begin with a hyphen themselves. The topic is set if and only if its flag is
there, and each header is the key and the value around its first colon. -/
theorem arranged_line_is_parsed (url peerId data : String) (topic : Option String)
    (headers : List String) (timeoutMs : Option Nat) (address : url.toList.head? ≠ some '-')
    (notSend : url ≠ sendCommand) (notHelp : url ≠ helpCommand)
    (colons : ∀ h ∈ headers, ':' ∈ h.toList)
    (small : ∀ n, timeoutMs = some n → n < 18446744073709551616) :
    (∀ ws, Arranged ws topic headers timeoutMs [peerId, data] →
      peerId.toList.head? ≠ some '-' → data.toList.head? ≠ some '-' →
      parse ((url :: sendCommand :: ws.map Word.text).map Argument.ofText) =
        .ok
          { url
            command := { peerId, data, topic, headers := headers.map keyAndValue, timeoutMs } }) ∧
    (∀ ws, Arranged ws topic headers timeoutMs [] →
      parse ((url :: sendCommand :: ws.map Word.text ++ ["--", peerId, data]).map
          Argument.ofText) =
        .ok
          { url
            command := { peerId, data, topic, headers := headers.map keyAndValue, timeoutMs } }) ∧
    ∃ ws, Arranged ws topic headers timeoutMs [] := by
  have fits : ∀ n, timeoutMs = some n → n ≤ Text.Decimal.maxNumber :=
    fun n given => Nat.le_of_lt_succ (small n given)
  refine ⟨?_, ?_, exists_arranged topic headers timeoutMs⟩
  · intro ws arranged plainPeer plainData
    have plain : ∀ p ∈ [peerId, data], p.toList.head? ≠ some '-' := by
      simp [plainPeer, plainData]
    obtain ⟨s, read, holds⟩ :=
      arranged.steps (arranged.isReadable colons fits plain) (Nat.le_refl _)
    exact parse_send address notSend notHelp (holds.parseSend read)
  · intro ws arranged
    obtain ⟨s, read, holds⟩ := arranged.steps (arranged.isReadable colons fits nofun) (by simp)
    obtain ⟨s', escaped, holds'⟩ := holds.escape
    -- Behind the hyphens there are two places left, and each takes any text.
    have readable : ∀ w ∈ [Word.place peerId, .place data], w.IsReadable true := by
      simp [Word.IsReadable]
    have sparse : ([Word.place peerId, .place data].foldl Said.add
        { topics := topic.toList, headers, timeouts := timeoutMs.toList }).IsSparse :=
      ⟨Option.length_toList_le, Option.length_toList_le, Nat.le_refl _⟩
    obtain ⟨last, read', holds''⟩ := holds'.steps readable sparse
    have whole : Scan.steps {} ((ws.map Word.text ++ ["--", peerId, data]).map Argument.ofText) =
        .ok last := by
      rw [List.map_append, Scan.steps_append read, List.map_cons, Scan.steps, escaped]
      exact read'
    exact parse_send address notSend notHelp (holds''.parseSend whole)

/-- Flags around and between two places that look like commands. -/
def crossedWords : List Word :=
  [.header " a : b:c ", .place "send", .timeout 18446744073709551615, .topic "--topic=x",
    .header ":", .place "help"]

/-- The same flags in another order. -/
def frontWords : List Word :=
  [.topic "--topic=x", .header " a : b:c ", .header ":", .timeout 18446744073709551615]

/-- What they come to. -/
def crossedCommand (peerId data : String) : SendCommand :=
  { peerId
    data
    topic := some "--topic=x"
    headers := [("a", "b:c"), ("", "")]
    timeoutMs := some 18446744073709551615 }

theorem crossed_line_is_parsed :
    parse
        (["", "send", "--header= a : b:c ", "send", "--timeout-ms=18446744073709551615",
          "--topic=--topic=x", "--header=:", "help"].map Argument.ofText) =
      .ok { url := "", command := crossedCommand "send" "help" } ∧
    parse
        (["", "send", "--topic=--topic=x", "--header= a : b:c ", "--header=:",
          "--timeout-ms=18446744073709551615", "--", "--topic", "-- "].map Argument.ofText) =
      .ok { url := "", command := crossedCommand "--topic" "-- " } := by
  have colons : ∀ h ∈ [" a : b:c ", ":"], ':' ∈ h.toList := by decide
  have small : ∀ n, some 18446744073709551615 = some n → n < 18446744073709551616 := by
    rintro n ⟨rfl⟩
    decide
  have crossed : Arranged crossedWords (some "--topic=x") [" a : b:c ", ":"]
      (some 18446744073709551615) ["send", "help"] := ⟨rfl, rfl, rfl, rfl⟩
  have front : Arranged frontWords (some "--topic=x") [" a : b:c ", ":"]
      (some 18446744073709551615) [] := ⟨rfl, rfl, rfl, rfl⟩
  have crossedTexts : crossedWords.map Word.text =
      ["--header= a : b:c ", "send", "--timeout-ms=18446744073709551615", "--topic=--topic=x",
        "--header=:", "help"] := by decide +kernel
  have frontTexts : frontWords.map Word.text =
      ["--topic=--topic=x", "--header= a : b:c ", "--header=:",
        "--timeout-ms=18446744073709551615"] := by decide +kernel
  have split : [" a : b:c ", ":"].map keyAndValue = [("a", "b:c"), ("", "")] := by decide +kernel
  obtain ⟨around, -, -⟩ := arranged_line_is_parsed "" "send" "help" (some "--topic=x")
    [" a : b:c ", ":"] (some 18446744073709551615) nofun (by decide) (by decide) colons small
  obtain ⟨-, behind, -⟩ := arranged_line_is_parsed "" "--topic" "-- " (some "--topic=x")
    [" a : b:c ", ":"] (some 18446744073709551615) nofun (by decide) (by decide) colons small
  have first := around crossedWords crossed (by decide) (by decide)
  have second := behind frontWords front
  rw [crossedTexts, split] at first
  rw [frontTexts, split] at second
  exact ⟨first, second⟩

end Lines

end Courier.CommandLine
