import Courier.Call.Status
import Courier.Proofs.Http.Headers

/-!
# Statuses in headers

A status that has no details and no metadata is read out of the headers it was written to, and
what else stood in these headers becomes its metadata (`read_write`, `field?_others_write`). Whatever
headers hold, `read_cases` says what can be read out of them.
-/

namespace Courier

open Http (Headers)

/-- The three names of a status have no value. -/
structure Http.Headers.NoStatus (h : Headers) : Prop where
  code : h.get? Status.codeHeader = none
  message : h.get? Status.messageHeader = none
  details : h.get? Status.detailsHeader = none

/-- Every code but the unknown one is only read from its own number. -/
theorem Code.eq_toBytes_of_ofBytes {bs : Bytes} {c : Code} (read : ofBytes bs = c)
    (known : c ≠ .unknown) : bs = c.toBytes := by
  unfold ofBytes at read
  cases found : all.find? fun c => c.toBytes == bs with
  | none =>
    rw [found] at read
    exact absurd read.symm known
  | some c' =>
    rw [found] at read
    cases read
    have same := List.find?_some found
    exact (eq_of_beq same).symm

/-- Headers with a status whose details are not base64. -/
structure Http.Headers.BadDetails (h : Headers) (fault : Text.Base64.Fault) : Prop where
  code : h.get? Status.codeHeader ≠ none
  details : ∃ value, h.get? Status.detailsHeader = some value ∧
    Text.Base64.decode value = .error fault

namespace Status

variable {h : Headers} {code : Code} {message : String}

/-- The headers that are not those of a status. -/
def others (h : Headers) : Headers :=
  ((h.erase codeHeader).erase messageHeader).erase detailsHeader

/-- Without details and metadata, only the code and a message that is not empty are written. -/
theorem write_eq (h : Headers) (code : Code) (message : String) :
    write { code, message } h =
      if message = "" then h.insert codeHeader code.toBytes
      else
        (h.insert codeHeader code.toBytes).insert messageHeader
          (Text.Percent.encode (utf8 message)) := by
  have nothing : h.extend (Headers.sanitized {}) = h := Headers.extend_empty h
  rw [write, nothing]
  unfold entries
  split <;> rfl

theorem get?_code_write (h : Headers) (code : Code) (message : String) :
    (write { code, message } h).get? codeHeader = some code.toBytes := by
  rw [write_eq]
  split
  · exact Headers.get?_insert_self _ _ _
  · rw [Headers.get?_insert_of_ne _ _ (by decide)]
    exact Headers.get?_insert_self _ _ _

theorem get?_write_of_ne (h : Headers) {name : String} (notCode : name ≠ codeHeader)
    (notMessage : name ≠ messageHeader) :
    (write { code, message } h).get? name = h.get? name := by
  rw [write_eq]
  split
  · exact Headers.get?_insert_of_ne _ _ notCode
  · rw [Headers.get?_insert_of_ne _ _ notMessage]
    exact Headers.get?_insert_of_ne _ _ notCode

theorem readDetails_write (free : h.NoStatus) :
    readDetails (write { code, message } h) = .ok [] := by
  rw [readDetails, get?_write_of_ne h (by decide) (by decide), free.details]

theorem readMessage_write (free : h.NoStatus) :
    readMessage (write { code, message } h) = .ok message := by
  rw [write_eq]
  split
  · next empty =>
    rw [readMessage, Headers.get?_insert_of_ne _ _ (by decide), free.message, empty]
  · rw [readMessage, Headers.get?_insert_self]
    simp only [Text.Percent.decode_encode, Bytes.text?_utf8]

theorem field?_others (h : Headers) (name : String) :
    (others h).field? name =
      if name ∈ [codeHeader, messageHeader, detailsHeader] then none else h.field? name :=
  Headers.field?_foldl_erase [codeHeader, messageHeader, detailsHeader] h name

/-- Without the headers of the status, those that it was added to are left. -/
theorem field?_others_write (free : h.NoStatus) (name : String) :
    (others (write { code, message } h)).field? name = h.field? name := by
  rw [field?_others]
  split
  · next own =>
    have absent : h.get? name = none := by
      simp only [List.mem_cons, List.not_mem_nil, or_false] at own
      rcases own with rfl | rfl | rfl
      · exact free.code
      · exact free.message
      · exact free.details
    exact (Headers.field?_eq_none_iff.mpr (Headers.get?_eq_none_iff.mp absent)).symm
  · next foreign =>
    have notCode : name ≠ codeHeader := fun same => foreign (same ▸ List.mem_cons_self)
    have notMessage : name ≠ messageHeader := fun same => foreign (by simp [same])
    rw [write_eq]
    split
    · exact Headers.field?_insert_of_ne _ _ notCode
    · rw [Headers.field?_insert_of_ne _ _ notMessage, Headers.field?_insert_of_ne _ _ notCode]

theorem names_others_write (free : h.NoStatus) :
    (others (write { code, message } h)).names = h.names := by
  ext name
  rw [← not_iff_not, ← Headers.field?_eq_none_iff, ← Headers.field?_eq_none_iff,
    field?_others_write free]

/-- A status is read out of the headers it was written to. -/
theorem read_write (free : h.NoStatus) :
    read (write { code, message } h) =
      .ok (some { code, message, metadata := others (write { code, message } h) }) := by
  rw [read, get?_code_write]
  simp only [readDetails_write free, readMessage_write free, Code.ofBytes_toBytes]
  rfl

/-! ## What is read out of any headers -/

theorem of_readDetails_eq_error {crash : Crash} (unread : readDetails h = .error crash) :
    ∃ fault value, crash = .malformedDetails fault ∧ h.get? detailsHeader = some value ∧
      Text.Base64.decode value = .error fault := by
  unfold readDetails at unread
  split at unread
  · cases unread
  · next value there =>
    split at unread
    · cases unread
    · next fault malformed =>
      cases unread
      exact ⟨fault, value, rfl, there, malformed⟩

/-- Reading finds no status, crashes over its details, or finds one whose code is the one in the
headers unless it is unknown. The other headers are its metadata. -/
theorem read_cases (h : Headers) :
    (h.get? codeHeader = none ∧ read h = .ok none) ∨
    (∃ fault, h.BadDetails fault ∧ read h = .error (.malformedDetails fault)) ∨
    (∃ value s, h.get? codeHeader = some value ∧
      (s.code = .unknown ∨ s.code = Code.ofBytes value) ∧ s.metadata = others h ∧
      read h = .ok (some s)) := by
  unfold read
  cases present : h.get? codeHeader with
  | none => exact .inl ⟨rfl, rfl⟩
  | some value =>
    right
    cases unread : readDetails h with
    | error crash =>
      left
      obtain ⟨fault, details, rfl, there, malformed⟩ := of_readDetails_eq_error unread
      have held : h.get? codeHeader ≠ none := by rw [present]; exact Option.some_ne_none value
      exact ⟨fault, ⟨held, details, there, malformed⟩, rfl⟩
    | ok details =>
      right
      -- A message that is no text changes the code and nothing else.
      cases readMessage h with
      | ok message => exact ⟨value, _, rfl, .inr rfl, rfl, rfl⟩
      | error fault => exact ⟨value, _, rfl, .inl rfl, rfl, rfl⟩

/-- It is the code that makes a status. -/
theorem read_eq_none_iff : read h = .ok none ↔ h.get? codeHeader = none := by
  constructor
  · intro nothing
    rcases read_cases h with ⟨absent, -⟩ | ⟨fault, -, same⟩ | ⟨value, s, -, -, -, same⟩
    · exact absent
    · rw [same] at nothing
      cases nothing
    · rw [same] at nothing
      cases nothing
  · intro absent
    rw [read, absent]

theorem read_eq_error_iff {crash : Crash} :
    read h = .error crash ↔ ∃ fault, crash = .malformedDetails fault ∧ h.BadDetails fault := by
  constructor
  · intro crashes
    rcases read_cases h with ⟨-, same⟩ | ⟨fault, bad, same⟩ | ⟨value, s, -, -, -, same⟩
    · rw [same] at crashes
      cases crashes
    · rw [same] at crashes
      cases crashes
      exact ⟨fault, rfl, bad⟩
    · rw [same] at crashes
      cases crashes
  · rintro ⟨fault, rfl, code, value, there, malformed⟩
    obtain ⟨number, present⟩ := Option.ne_none_iff_exists'.mp code
    have unread : readDetails h = .error (.malformedDetails fault) := by
      rw [readDetails, there]
      simp only [malformed]
    rw [read, present]
    simp only [unread]

theorem of_read_eq_some {s : Status} (held : read h = .ok (some s)) :
    (∃ value, h.get? codeHeader = some value ∧ (s.code = .unknown ∨ s.code = Code.ofBytes value)) ∧
      s.metadata = others h := by
  rcases read_cases h with ⟨-, same⟩ | ⟨fault, -, same⟩ | ⟨value, s', present, code, rest, same⟩
  · rw [same] at held
    cases held
  · rw [same] at held
    cases held
  · rw [same] at held
    cases held
    exact ⟨⟨value, present, code⟩, rest⟩

/-- A good status is only read where the code is the digit zero. -/
theorem get?_code_of_read_ok {s : Status} (held : read h = .ok (some s)) (good : s.code = .ok) :
    h.get? codeHeader = some (utf8 "0") := by
  obtain ⟨⟨value, present, unknown | known⟩, -⟩ := of_read_eq_some held
  · rw [good] at unknown
    cases unknown
  · rw [good] at known
    rw [present, Code.eq_toBytes_of_ofBytes known.symm (by decide)]
    rfl

theorem names_others_subset (h : Headers) : (others h).names ⊆ h.names := by
  rw [others, Headers.names_erase, Headers.names_erase, Headers.names_erase]
  exact (Finset.erase_subset _ _).trans ((Finset.erase_subset _ _).trans (Finset.erase_subset _ _))

end Status

end Courier
