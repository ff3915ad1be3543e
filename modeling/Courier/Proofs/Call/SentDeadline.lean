import Courier.Proofs.Call.Sending

/-!
# Deadlines as they are sent

A deadline is sent as a whole number of some unit, and what is less than one unit is lost. The unit
is the finest whose number has no more than eight digits (`finest?_eq_some`). So there are at least
10^8 of the next finer unit in the deadline, and since no unit is more than a thousand of the next
finer one, at most a hundred-thousandth of the deadline is lost (`roundsTo_count`).

A receiver knows a unit by its letter alone. `unitLength?` and `Duration.ofDeadline?` read a
deadline from that side, without the units of the sender.
-/

namespace Courier

open Http (Headers)

/-! ## Reading a deadline -/

/-- The nanoseconds in the unit that a letter stands for. -/
def unitLength? : Char → Option Nat
  | 'n' => some 1
  | 'u' => some 1000
  | 'm' => some 1000000
  | 'S' => some 1000000000
  | 'M' => some (60 * 1000000000)
  | 'H' => some (60 * 60 * 1000000000)
  | _ => none

theorem unitLength?_letter (u : TimeUnit) : unitLength? u.letter = some u.nanos := by
  cases u <;> rfl

/-- Every letter with a length is that of a unit. -/
theorem exists_unit_of_unitLength? {letter : Char} {length : Nat}
    (known : unitLength? letter = some length) : ∃ u : TimeUnit, u.nanos = length := by
  unfold unitLength? at known
  split at known
  · cases known; exact ⟨.nanosecond, rfl⟩
  · cases known; exact ⟨.microsecond, rfl⟩
  · cases known; exact ⟨.millisecond, rfl⟩
  · cases known; exact ⟨.second, rfl⟩
  · cases known; exact ⟨.minute, rfl⟩
  · cases known; exact ⟨.hour, rfl⟩
  · cases known

/-- Decimal digits as a deadline may have them. -/
structure IsCount (digits : List Char) : Prop where
  filled : digits ≠ []
  short : digits.length ≤ 8
  decimal : ∀ c ∈ digits, c.isDigit = true
  /-- A zero stands in front only if it is all there is. -/
  plain : digits.head? = some '0' → digits = ['0']

namespace Duration

/-- The duration that a text denotes: digits, and then the letter of a unit. -/
def ofDeadline? (text : String) : Option Duration :=
  match text.toList.getLast? with
  | none => none
  | some letter =>
    (unitLength? letter).map fun length =>
      ⟨Nat.ofDigitChars 10 text.toList.dropLast 0 * length⟩

/-- A unit in which the whole number of units has no more than eight digits, while it has more in
every finer one. -/
def IsFinest (d : Duration) (length : Nat) : Prop :=
  d.nanos / length < 100000000 ∧
    ∀ letter finer, unitLength? letter = some finer → finer < length →
      100000000 ≤ d.nanos / finer

/-- A duration that was rounded down to another one, by a hundred-thousandth at most. -/
structure RoundsTo (d e : Duration) : Prop where
  le : e.nanos ≤ d.nanos
  close : (d.nanos - e.nanos) * 100000 ≤ d.nanos
  /-- What eight digits of nanoseconds hold is not rounded. -/
  exact : d.nanos < 100000000 → e = d
  /-- Only no time at all is rounded to none. -/
  filled : e.nanos = 0 → d.nanos = 0

/-- A text that a deadline may be sent as. -/
structure SentAs (d : Duration) (text : String) : Prop where
  form : ∃ digits letter length, text.toList = digits ++ [letter] ∧ IsCount digits ∧
    unitLength? letter = some length ∧ d.IsFinest length ∧
    Nat.ofDigitChars 10 digits 0 = d.nanos / length
  denotes : ∃ e, ofDeadline? text = some e ∧ d.RoundsTo e

end Duration

/-! ## Digits -/

/-- A number that is not zero does not begin with one. The first digit of a longer number is that
of the number without its last digit. -/
theorem head?_toDigits_ne {n : Nat} (pos : 0 < n) : (Nat.toDigits 10 n).head? ≠ some '0' := by
  induction n using Nat.strongRecOn with
  | ind n ih =>
    rcases Nat.lt_or_ge n 10 with single | more
    · rw [Nat.toDigits_of_lt_base single]
      intro zero
      have same : n.digitChar = '0' := Option.some.inj zero
      have value := Nat.toNat_digitChar_of_lt_ten single
      rw [same] at value
      have code : '0'.toNat = 48 := rfl
      omega
    · rw [Nat.toDigits_of_base_le (by decide) more]
      have tens : 0 < n / 10 := Nat.div_pos more (by decide)
      have fewer : n / 10 < n := Nat.div_lt_self pos (by decide)
      rw [List.head?_append_of_ne_nil _ Nat.toDigits_ne_nil]
      exact ih (n / 10) fewer tens

/-- The decimal digits of a number below 10^8 are such as a deadline has. -/
theorem isCount_toDigits {n : Nat} (small : n < 100000000) : IsCount (Nat.toDigits 10 n) where
  filled := Nat.toDigits_ne_nil
  short := (Nat.length_toDigits_le_iff (by decide) (by decide)).mpr small
  decimal := fun _ mem => Nat.isDigit_of_mem_toDigits (by decide) (by decide) mem
  plain := by
    intro zero
    rcases Nat.eq_zero_or_pos n with rfl | pos
    · rfl
    · exact absurd zero (head?_toDigits_ne pos)

/-! ## The finest unit -/

namespace TimeUnit

theorem mem_all (u : TimeUnit) : u ∈ all := by cases u <;> decide

/-- The units are tried from the finest on. -/
theorem pairwise_all : all.Pairwise fun u v => u.nanos < v.nanos := by decide

/-- Each unit but the first has a finer one that is at least a thousandth of it. -/
theorem exists_finer {u : TimeUnit} (coarse : u ≠ .nanosecond) :
    ∃ v : TimeUnit, v.nanos < u.nanos ∧ u.nanos ≤ 1000 * v.nanos := by
  cases u with
  | nanosecond => exact absurd rfl coarse
  | microsecond => exact ⟨.nanosecond, by decide, by decide⟩
  | millisecond => exact ⟨.microsecond, by decide, by decide⟩
  | second => exact ⟨.millisecond, by decide, by decide⟩
  | minute => exact ⟨.second, by decide, by decide⟩
  | hour => exact ⟨.minute, by decide, by decide⟩

end TimeUnit

namespace Duration

variable {d : Duration} {n : Nat} {u : TimeUnit}

/-- The unit that is found holds the duration in eight digits, and no finer one does. -/
theorem finest?_eq_some (found : d.finest? = some (n, u)) :
    n = d.nanos / u.nanos ∧ n < 100000000 ∧
      ∀ v : TimeUnit, v.nanos < u.nanos → 100000000 ≤ d.nanos / v.nanos := by
  obtain ⟨tried, w, behind, order, fits, tooFine⟩ := List.findSome?_eq_some_iff.mp found
  unfold count? at fits
  split at fits
  · next small =>
    cases fits
    refine ⟨rfl, Nat.lt_succ_of_le small, ?_⟩
    intro v finer
    -- The units behind the one that is found are longer, so a finer one was tried before it.
    have place := TimeUnit.mem_all v
    have ordered := TimeUnit.pairwise_all
    rw [order] at place ordered
    have longer := (List.pairwise_cons.mp (List.pairwise_append.mp ordered).2.1).1
    rcases List.mem_append.mp place with before | later
    · exact count?_eq_none_iff.mp (tooFine v before)
    · rcases List.mem_cons.mp later with rfl | after
      · exact absurd finer (Nat.lt_irrefl _)
      · exact absurd finer (Nat.lt_asymm (longer v after))
  · cases fits

theorem isFinest_of_finest? (found : d.finest? = some (n, u)) : d.IsFinest u.nanos := by
  obtain ⟨count, small, tooFine⟩ := finest?_eq_some found
  refine ⟨count ▸ small, ?_⟩
  intro letter finer known shorter
  obtain ⟨v, rfl⟩ := exists_unit_of_unitLength? known
  exact tooFine v shorter

/-- Whole units of the finest length are close to the duration: what is lost is less than a unit,
so less than a thousand of the next finer unit, of which the duration has at least 10^8. -/
theorem roundsTo_count (found : d.finest? = some (n, u)) : d.RoundsTo ⟨n * u.nanos⟩ := by
  obtain ⟨count, -, tooFine⟩ := finest?_eq_some found
  have whole : n * u.nanos + d.nanos % u.nanos = d.nanos := by
    rw [count, Nat.mul_comm]
    exact Nat.div_add_mod _ _
  by_cases finest : u = .nanosecond
  · subst finest
    have all : n * TimeUnit.nanosecond.nanos = d.nanos := by
      rw [count]
      exact (Nat.mul_one _).trans (Nat.div_one _)
    rw [all]
    exact ⟨Nat.le_refl _, by simp, fun _ => rfl, id⟩
  · obtain ⟨v, finer, thousand⟩ := TimeUnit.exists_finer finest
    have many : 100000000 * v.nanos ≤ d.nanos :=
      (Nat.le_div_iff_mul_le v.nanos_pos).mp (tooFine v finer)
    have lost : d.nanos % u.nanos < u.nanos := Nat.mod_lt _ u.nanos_pos
    have long := v.nanos_pos
    have close : (d.nanos - n * u.nanos) * 100000 ≤ d.nanos := by omega
    exact
      { le := by show n * u.nanos ≤ d.nanos; omega
        close
        exact := fun short => by omega
        filled := fun none => by
          have nothing : n * u.nanos = 0 := none
          omega }

/-- The text of a deadline is read as what it was rounded to. -/
theorem sentAs_of_deadline? {text : String} (written : d.deadline? = some text) :
    d.SentAs text := by
  obtain ⟨⟨n, u⟩, found, rfl⟩ := Option.map_eq_some_iff.mp written
  obtain ⟨count, small, -⟩ := finest?_eq_some found
  have parts : (toString n ++ String.singleton u.letter).toList =
      Nat.toDigits 10 n ++ [u.letter] := by
    rw [String.toList_append, String.toList_singleton, Nat.toString_eq_repr, Nat.toList_repr]
  have read : Nat.ofDigitChars 10 (Nat.toDigits 10 n) 0 = n := Nat.ofDigitChars_ten_toDigits
  constructor
  · exact ⟨_, _, _, parts, isCount_toDigits small, unitLength?_letter u, isFinest_of_finest? found,
      read.trans count⟩
  · refine ⟨⟨n * u.nanos⟩, ?_, roundsTo_count found⟩
    rw [ofDeadline?, parts, List.getLast?_concat, List.dropLast_concat]
    simp only [unitLength?_letter, read, Option.map_some]

end Duration

/-! ## Calls -/

/-- A call whose deadline has fewer than 10^8 whole hours is sent with it, if its headers have room,
and whatever is sent says the deadline in the finest unit that has no more than eight digits for
it, rounded down by a hundred-thousandth at most. -/
theorem sent_deadline_rounds_down (c : Call) (d : Duration) (set : c.options.timeout = some d)
    (brief : d.nanos / 3600000000000 < 100000000) :
    (c.options.HasRoom → ∀ reply, (∀ cause, reply ≠ .notReady cause) →
      ∃ http, (c.perform reply).sent = some http) ∧
    ∀ reply http, (c.perform reply).sent = some http →
      ∃ text, http.headers.values "grpc-timeout" = [utf8 text] ∧ d.SentAs text := by
  have short : c.options.IsBrief := by
    intro d' same
    rw [set] at same
    cases same
    exact brief
  constructor
  · intro room reply ready
    obtain ⟨http, handed, -⟩ := Call.values_of_room short room
    exact ⟨http, by rw [Call.perform_of_toHttp handed ready]⟩
  · intro reply http sent
    have values := Call.values_of_toHttp short (Call.toHttp_of_sent sent)
    obtain ⟨text, written⟩ := short.deadline? set
    refine ⟨text, ?_, Duration.sentAs_of_deadline? written⟩
    have own : "grpc-timeout" ∉ reservedHeaders := by decide
    rw [values, Options.sentValues, if_neg own, Options.metadataValues, set]
    simp only [Options.timeoutHeader, if_true, written]
    rfl

/-- A call that sets a deadline of one nanosecond less than 100,001 seconds, and a header of its own
under the name of deadlines. -/
def hastyCall : Call :=
  { request := { peerId := "p", data := "d" }
    options :=
      { timeout := some (.ofParts 100000 999999999)
        headers := .ofList [("grpc-timeout", utf8 "1H")] } }

/-- In milliseconds this deadline has nine digits, so it is sent in seconds. -/
theorem hasty_call_is_sent_in_seconds :
    hastyCall.options.timeout = some (.ofParts 100000 999999999) ∧
    (Duration.ofParts 100000 999999999).nanos / 3600000000000 < 100000000 ∧
    hastyCall.options.HasRoom ∧
    ∃ http, (hastyCall.perform (.response {})).sent = some http ∧
      http.headers.values "grpc-timeout" = [utf8 "100000S"] ∧
      (Duration.ofParts 100000 999999999).SentAs "100000S" := by
  have set : hastyCall.options.timeout = some (.ofParts 100000 999999999) := rfl
  have brief : (Duration.ofParts 100000 999999999).nanos / 3600000000000 < 100000000 := by decide
  have room : hastyCall.options.HasRoom := Options.hasRoom_of_few (by decide +kernel)
  obtain ⟨isSent, rounds⟩ := sent_deadline_rounds_down hastyCall _ set brief
  obtain ⟨http, sent⟩ := isSent room (.response {}) (response_ready {})
  obtain ⟨text, values, sentAs⟩ := rounds _ http sent
  have computed : ((hastyCall.perform (.response {})).sent.map fun http =>
      http.headers.values "grpc-timeout") = some [utf8 "100000S"] := by decide +kernel
  rw [sent, Option.map_some, Option.some.injEq] at computed
  have same : text = "100000S" := by
    rw [values, List.cons.injEq] at computed
    rw [← Option.some.injEq, ← Bytes.text?_utf8, computed.1, Bytes.text?_utf8]
  rw [same] at sentAs
  exact ⟨set, brief, room, http, sent, computed, sentAs⟩

end Courier
