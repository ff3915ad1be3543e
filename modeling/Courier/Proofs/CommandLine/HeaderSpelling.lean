import Courier.CommandLine.Header
import Courier.Proofs.Text.Blank

/-!
# Spellings of a header

A header can be written with any blanks around its key and around its value. `SpellsHeader` is any
of these ways. A text is read as a header exactly if it spells it that way and neither side of the
header keeps a blank at an end, nor the key a colon (`parseHeader_eq_some_iff`): so the header that
is read is a normal form of the text. Every text with a colon has one (`parseHeader_of_mem`).
-/

namespace Courier.CommandLine

open Text (Blanks IsTrimmed isBlank trim)

variable {s key value : String}

/-- A text that is a key and a value around a colon, with blanks around either. -/
def SpellsHeader (key value s : String) : Prop :=
  ∃ w₁ w₂ w₃ w₄ : String,
    Blanks w₁.toList ∧ Blanks w₂.toList ∧ Blanks w₃.toList ∧ Blanks w₄.toList ∧
    s = w₁ ++ key ++ w₂ ++ ":" ++ w₃ ++ value ++ w₄

/-- No blank is a colon. -/
theorem colon_not_mem_of_blanks {w : List Char} (blank : Blanks w) : ':' ∉ w := by
  intro mem
  have isBlank_colon : isBlank ':' = false := by decide
  rw [blank ':' mem] at isBlank_colon
  cases isBlank_colon

/-! ## What is read -/

theorem spellsHeader_of_parseHeader (parsed : parseHeader s = some (key, value)) :
    ':' ∉ key.toList ∧ IsTrimmed key.toList ∧ IsTrimmed value.toList ∧
      SpellsHeader key value s := by
  obtain ⟨⟨front, back⟩, split, same⟩ := Option.map_eq_some_iff.mp parsed
  obtain ⟨rfl, rfl⟩ := Prod.mk.inj same
  obtain ⟨free, whole⟩ := splitColon_eq_some_iff.mp split
  obtain ⟨w₁, w₂, blank₁, blank₂, key⟩ := Text.eq_append_trim front
  obtain ⟨w₃, w₄, blank₃, blank₄, value⟩ := Text.eq_append_trim back
  simp only [String.toList_ofList]
  refine ⟨?_, Text.isTrimmed_trim front, Text.isTrimmed_trim back,
    String.ofList w₁, String.ofList w₂, String.ofList w₃, String.ofList w₄, ?_⟩
  · -- The key lies within what stands before the first colon.
    intro mem
    apply free
    rw [key]
    simp [mem]
  · simp only [String.toList_ofList]
    refine ⟨blank₁, blank₂, blank₃, blank₄, String.toList_inj.mp ?_⟩
    calc s.toList = front ++ ':' :: back := whole
      _ = (w₁ ++ trim front ++ w₂) ++ ':' :: (w₃ ++ trim back ++ w₄) := by rw [← key, ← value]
      _ = _ := by simp

theorem parseHeader_of_spellsHeader (free : ':' ∉ key.toList) (left : IsTrimmed key.toList)
    (right : IsTrimmed value.toList) (spells : SpellsHeader key value s) :
    parseHeader s = some (key, value) := by
  obtain ⟨w₁, w₂, w₃, w₄, blank₁, blank₂, blank₃, blank₄, rfl⟩ := spells
  -- The colon between the two sides is the first one: there is none in the key and none in blanks.
  have split : splitColon (w₁ ++ key ++ w₂ ++ ":" ++ w₃ ++ value ++ w₄).toList =
      some (w₁.toList ++ key.toList ++ w₂.toList, w₃.toList ++ value.toList ++ w₄.toList) := by
    refine splitColon_eq_some_iff.mpr ⟨?_, by simp⟩
    simp [free, colon_not_mem_of_blanks blank₁, colon_not_mem_of_blanks blank₂]
  rw [parseHeader, split, Option.map_some]
  dsimp only
  rw [Text.trim_append blank₁ blank₂ left, Text.trim_append blank₃ blank₄ right,
    String.ofList_toList, String.ofList_toList]

theorem parseHeader_eq_some_iff :
    parseHeader s = some (key, value) ↔
      ':' ∉ key.toList ∧ IsTrimmed key.toList ∧ IsTrimmed value.toList ∧
        SpellsHeader key value s := by
  constructor
  · exact spellsHeader_of_parseHeader
  · rintro ⟨free, left, right, spells⟩
    exact parseHeader_of_spellsHeader free left right spells

/-! ## When there is something to read -/

/-- What stands around the first colon, without the blanks on either side of each. -/
def keyAndValue (s : String) : String × String :=
  (String.ofList (trim (s.toList.takeWhile (· != ':'))),
    String.ofList (trim ((s.toList.dropWhile (· != ':')).drop 1)))

/-- A list with a colon is what stands before the first one, that colon and the rest. -/
theorem split_at_colon {cs : List Char} (colon : ':' ∈ cs) :
    cs = cs.takeWhile (· != ':') ++ ':' :: (cs.dropWhile (· != ':')).drop 1 := by
  have whole : cs.takeWhile (· != ':') ++ cs.dropWhile (· != ':') = cs :=
    List.takeWhile_append_dropWhile
  have known := List.head?_dropWhile_not (· != ':') cs
  cases rest : cs.dropWhile (· != ':') with
  | nil =>
    have none := List.dropWhile_eq_nil_iff.mp rest ':' colon
    simp at none
  | cons c behind =>
    rw [rest] at known whole
    have first : c = ':' := by simpa using known
    rw [first] at whole
    exact whole.symm

theorem parseHeader_of_mem (colon : ':' ∈ s.toList) : parseHeader s = some (keyAndValue s) := by
  have free : ':' ∉ s.toList.takeWhile (· != ':') := by
    intro mem
    simpa using List.mem_takeWhile_imp mem
  rw [parseHeader, splitColon_eq_some_iff.mpr ⟨free, split_at_colon colon⟩]
  rfl

theorem mem_of_parseHeader {header : String × String} (parsed : parseHeader s = some header) :
    ':' ∈ s.toList := by
  obtain ⟨⟨front, back⟩, split, -⟩ := Option.map_eq_some_iff.mp parsed
  rw [(splitColon_eq_some_iff.mp split).2]
  simp

/-- A text is read as a header if and only if it has a colon. The key that is read has none, neither
side has a blank at an end, and the text is the two around a colon with nothing but blanks around
them: further colons stay in the value. However these blanks are changed, the same header is read. -/
theorem header_spelling_is_stable (s : String) :
    ((∃ key value, parseHeader s = some (key, value)) ↔ ':' ∈ s.toList) ∧
    ∀ key value, parseHeader s = some (key, value) →
      ':' ∉ key.toList ∧ IsTrimmed key.toList ∧ IsTrimmed value.toList ∧
      SpellsHeader key value s ∧
      ∀ t, SpellsHeader key value t → parseHeader t = some (key, value) := by
  refine ⟨⟨?_, ?_⟩, ?_⟩
  · rintro ⟨key, value, parsed⟩
    exact mem_of_parseHeader parsed
  · intro colon
    exact ⟨_, _, parseHeader_of_mem colon⟩
  · intro key value parsed
    obtain ⟨free, left, right, spells⟩ := parseHeader_eq_some_iff.mp parsed
    refine ⟨free, left, right, spells, ?_⟩
    intro t respelled
    exact parseHeader_eq_some_iff.mpr ⟨free, left, right, respelled⟩

/-- A key between an em space and a tab, and a value of colons and blanks before a line break. -/
theorem wide_header_is_respelled :
    parseHeader "\u2003x-trace\t: a: b :\n" = some ("x-trace", "a: b :") ∧
    parseHeader "x-trace:a: b :" = some ("x-trace", "a: b :") := by
  have parsed : parseHeader "\u2003x-trace\t: a: b :\n" = some ("x-trace", "a: b :") := by
    decide +kernel
  obtain ⟨-, -, -, -, stable⟩ := (header_spelling_is_stable _).2 _ _ parsed
  have none : Blanks "".toList := nofun
  exact ⟨parsed, stable _ ⟨"", "", "", "", none, none, none, none, rfl⟩⟩

end Courier.CommandLine
