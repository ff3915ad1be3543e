import Courier.Proofs.Http.Headers
import Courier.Proofs.Http.Rows
import Courier.Proofs.Http.Values

/-!
# Header maps without room

Two ways lead to a map that has no room. One is to have many names, whatever they are: `numberedHeaders`
has as many as it takes. The other one is to have names that ask for the same slot: `crowd` is a row of
6,564 names which a map takes one after the other, and then no more (`crowd_fills`). All but one of
them have the hash zero. Most are made of words that lead the hash back to where it was, so that any
number of these words can stand in front of an ending.
-/

namespace Courier

open Http (Headers)

/-! ## Numbers -/

theorem repr_inj {n m : Nat} (same : n.repr = m.repr) : n = m := by
  have digits := congrArg String.toList same
  rw [Nat.toList_repr, Nat.toList_repr] at digits
  rw [← Nat.ofDigitChars_ten_toDigits (n := n), digits, Nat.ofDigitChars_ten_toDigits]

/-- No decimal number is a text in which something is not a digit. -/
theorem repr_ne {name : String} (letter : name.toList.all Char.isDigit = false) (n : Nat) :
    n.repr ≠ name := by
  rintro rfl
  have digits : n.repr.toList.all Char.isDigit = true := by
    rw [List.all_eq_true, Nat.toList_repr]
    exact fun c mem => Nat.isDigit_of_mem_toDigits (by decide) (by decide) mem
  rw [digits] at letter
  cases letter

/-- Headers named by consecutive numbers. -/
@[irreducible]
def numberedHeaders (first count : Nat) : Headers :=
  .ofList ((List.range' first count).map fun n => (n.repr, []))

theorem names_numberedHeaders (first count : Nat) :
    (numberedHeaders first count).names = ((List.range' first count).map Nat.repr).toFinset := by
  rw [numberedHeaders, Headers.names_ofList, List.map_map]
  rfl

theorem get?_numberedHeaders (first count : Nat) {name : String}
    (letter : name.toList.all Char.isDigit = false) :
    (numberedHeaders first count).get? name = none := by
  rw [Headers.get?_eq_none_iff, names_numberedHeaders, List.mem_toFinset, List.mem_map]
  rintro ⟨n, -, same⟩
  exact repr_ne letter n same

theorem card_numberedHeaders (first count : Nat) :
    (numberedHeaders first count).names.card = count := by
  have distinct : ((List.range' first count).map Nat.repr).Nodup :=
    (List.nodup_range' 1).map fun _ _ same => repr_inj same
  rw [names_numberedHeaders, List.toFinset_card_of_nodup distinct, List.length_map,
    List.length_range']

/-- Two rows of numbers of which one goes on where the other one ends have as many names as both
together. -/
theorem card_numberedHeaders_union (first count more : Nat) :
    ((numberedHeaders first count).names ∪ (numberedHeaders (first + count) more).names).card =
      count + more := by
  have row : (numberedHeaders first count).names ∪ (numberedHeaders (first + count) more).names =
      (numberedHeaders first (count + more)).names := by
    rw [names_numberedHeaders, names_numberedHeaders, names_numberedHeaders,
      ← List.toFinset_append, ← List.map_append, List.range'_append_1]
  rw [row, card_numberedHeaders]

/-! ## Names of letters -/

section Letters

variable {name : String}

theorem code_of_isLower {c : Char} (letter : c.isLower = true) : 97 ≤ c.toNat ∧ c.toNat ≤ 122 := by
  obtain ⟨above, below⟩ := Bool.and_eq_true_iff.mp letter
  exact ⟨UInt32.le_iff_toNat_le.mp (of_decide_eq_true above),
    UInt32.le_iff_toNat_le.mp (of_decide_eq_true below)⟩

theorem utf8ByteSize_of_isLower (letters : name.toList.all Char.isLower = true) :
    name.utf8ByteSize = name.toList.length :=
  utf8ByteSize_of_ascii fun c mem =>
    Nat.lt_of_le_of_lt (code_of_isLower (List.all_eq_true.mp letters c mem)).2 (by decide)

/-- A short name of lower-case letters is one of metadata as it stands. -/
theorem metadataName?_of_isLower (letters : name.toList.all Char.isLower = true)
    (filled : 0 < name.toList.length) (short : name.toList.length < 65536) :
    metadataName? name = some name := by
  have letter {c : Char} (mem : c ∈ name.toList) : c.isLower = true :=
    List.all_eq_true.mp letters c mem
  have allowed : name.toList.all Http.isNameChar = true := by
    refine List.all_eq_true.mpr fun c mem => ?_
    show ((c.isUpper || c.isLower || c.isDigit) || _) = true
    rw [letter mem, Bool.or_true, Bool.true_or, Bool.true_or]
  have lower : name.map Char.toLower = name := by
    rw [← String.toList_inj, String.toList_map]
    refine (List.map_congr_left fun c mem => ?_).trans (List.map_id _)
    refine dif_neg fun upper => ?_
    have capital : c.toNat ≤ 90 := UInt32.le_iff_toNat_le.mp upper.2
    have small := (code_of_isLower (letter mem)).1
    omega
  have named : Http.headerName? name = some name := by
    rw [Http.headerName?, allowed, utf8ByteSize_of_isLower letters, lower, if_neg]
    simp only [Bool.not_true, Bool.or_false, Bool.or_eq_true, decide_eq_true_eq]
    omega
  have text : ¬"-bin".toList.isSuffixOf name.toList = true := by
    rw [List.isSuffixOf_iff_suffix]
    intro suffix
    have dash := letter (suffix.mem (by decide : '-' ∈ "-bin".toList))
    cases dash
  rw [metadataName?, named]
  exact if_neg text

end Letters

namespace Http

/-! ## Hashes -/

/-- A step of the hash, as far as tables show it. -/
def lowStep (hash : Nat) (b : UInt8) : Nat := (hash ^^^ b.toNat) * 435 % maxSlots

/-- The lower bits of a product and of an exclusive or do not depend on the higher ones. -/
theorem fnvStep_mod (hash : Nat) (b : UInt8) :
    fnvStep hash b % maxSlots = lowStep (hash % maxSlots) b := by
  have small : b.toNat % 2 ^ 15 = b.toNat :=
    Nat.mod_eq_of_lt (Nat.lt_of_lt_of_le b.toNat_lt (by decide))
  have mixed : (hash ^^^ b.toNat) % 2 ^ 15 = hash % 2 ^ 15 ^^^ b.toNat := by
    rw [Nat.xor_mod_two_pow, small]
  unfold fnvStep lowStep maxSlots
  rw [Nat.one_shiftLeft, Nat.one_shiftLeft]
  rw [Nat.mod_mod_of_dvd _ (Nat.pow_dvd_pow 2 (by decide)), Nat.mul_mod, mixed,
    Nat.mul_mod (hash % 2 ^ 15 ^^^ b.toNat) 435, ← mixed, Nat.mod_mod]

theorem foldl_fnvStep_mod (bytes : Bytes) (hash : Nat) :
    bytes.foldl fnvStep hash % maxSlots = bytes.foldl lowStep (hash % maxSlots) := by
  induction bytes generalizing hash with
  | nil => rfl
  | cons b bytes ih => rw [List.foldl_cons, ih, fnvStep_mod, List.foldl_cons]

/-- The lower bits of the hash before the first character of a name that is not a standard one. -/
def firstHash : Nat := 28580

theorem nameHash_eq {name : String} (own : name ∉ standardNames) :
    nameHash name = (utf8 name).foldl lowStep firstHash := by
  have place : standardNames.idxOf? name = none := List.idxOf?_eq_none_iff.mpr own
  unfold nameHash hashedBytes
  rw [place]
  simp only [List.foldl_append]
  rw [foldl_fnvStep_mod, foldl_fnvStep_mod]
  rfl

theorem utf8ByteSize_le_of_mem_standardNames {name : String} (standard : name ∈ standardNames) :
    name.utf8ByteSize ≤ 35 := by
  have all : standardNames.all (fun s => s.utf8ByteSize ≤ 35) = true := by decide +kernel
  exact of_decide_eq_true (List.all_eq_true.mp all name standard)

/-! ## Names with the hash zero -/

/-- Words that lead from the first hash back to it. -/
def loopWords : List String := ["dfrl", "frmo", "gmak"]

/-- Names of `n` such words and an ending that makes the hash zero. -/
def loopNames : Nat → List String
  | 0 => ["ldvf"]
  | n + 1 => loopWords.flatMap fun word => (loopNames n).map (word ++ ·)

theorem mem_loopNames_succ {n : Nat} {name : String} :
    name ∈ loopNames (n + 1) ↔ ∃ word ∈ loopWords, ∃ rest ∈ loopNames n, word ++ rest = name := by
  simp only [loopNames, List.mem_flatMap, List.mem_map]

theorem length_loopNames_succ (n : Nat) :
    (loopNames (n + 1)).length = 3 * (loopNames n).length := by
  simp only [loopNames, loopWords, List.flatMap_cons, List.flatMap_nil, List.length_append,
    List.length_map, List.length_nil]
  omega

/-- There are 3^8 names of eight words. -/
theorem length_loopNames : (loopNames 8).length = 6561 := by
  simp only [length_loopNames_succ]
  rfl

theorem length_of_mem_loopWords {word : String} (mem : word ∈ loopWords) :
    word.toList.length = 4 := by
  have all : loopWords.all (fun s => s.toList.length == 4) = true := by decide +kernel
  exact eq_of_beq (List.all_eq_true.mp all word mem)

theorem length_of_mem_loopNames {n : Nat} {name : String} (mem : name ∈ loopNames n) :
    name.toList.length = 4 * n + 4 := by
  induction n generalizing name with
  | zero =>
    rw [List.mem_singleton.mp mem]
    decide +kernel
  | succ n ih =>
    obtain ⟨word, looped, rest, inner, rfl⟩ := mem_loopNames_succ.mp mem
    rw [String.toList_append, List.length_append, length_of_mem_loopWords looped, ih inner]
    omega

/-- Names that begin with different words are different, and so are those that go on differently. -/
theorem nodup_loopNames (n : Nat) : (loopNames n).Nodup := by
  induction n with
  | zero => exact List.nodup_singleton _
  | succ n ih =>
    refine List.nodup_flatMap.mpr ⟨fun word _ => ?_, ?_⟩
    · exact ih.map fun rest rest' same => by
        rw [← String.toList_inj, String.toList_append, String.toList_append] at same
        exact String.toList_inj.mp (List.append_cancel_left same)
    · have distinct : loopWords.Pairwise (· ≠ ·) := by decide +kernel
      refine distinct.imp_of_mem fun {word word'} mem mem' differ => ?_
      intro name there there'
      obtain ⟨rest, -, rfl⟩ := List.mem_map.mp there
      obtain ⟨rest', -, same⟩ := List.mem_map.mp there'
      rw [← String.toList_inj, String.toList_append, String.toList_append] at same
      have lengths : word'.toList.length = word.toList.length :=
        (length_of_mem_loopWords mem').trans (length_of_mem_loopWords mem).symm
      exact differ (String.toList_inj.mp (List.append_inj same lengths).1.symm)

theorem isLower_of_mem_loopNames {n : Nat} {name : String} (mem : name ∈ loopNames n) :
    name.toList.all Char.isLower = true := by
  have words : loopWords.all (fun s => s.toList.all Char.isLower) = true := by decide +kernel
  induction n generalizing name with
  | zero =>
    rw [List.mem_singleton.mp mem]
    decide +kernel
  | succ n ih =>
    obtain ⟨word, looped, rest, inner, rfl⟩ := mem_loopNames_succ.mp mem
    rw [String.toList_append, List.all_append, List.all_eq_true.mp words word looped, ih inner]
    rfl

theorem utf8_append (s t : String) : utf8 (s ++ t) = utf8 s ++ utf8 t := by
  rw [utf8_eq_flatMap, utf8_eq_flatMap, utf8_eq_flatMap, String.toList_append, List.flatMap_append]

/-- Each word leads back to the first hash, and the ending leads from there to zero. -/
theorem foldl_of_mem_loopNames {n : Nat} {name : String} (mem : name ∈ loopNames n) :
    (utf8 name).foldl lowStep firstHash = 0 := by
  have words : loopWords.all (fun s => (utf8 s).foldl lowStep firstHash == firstHash) = true := by
    decide +kernel
  induction n generalizing name with
  | zero =>
    rw [List.mem_singleton.mp mem]
    decide +kernel
  | succ n ih =>
    obtain ⟨word, looped, rest, inner, rfl⟩ := mem_loopNames_succ.mp mem
    rw [utf8_append, List.foldl_append, eq_of_beq (List.all_eq_true.mp words word looped), ih inner]

/-- With eight words in front, a name is longer than all standard ones. -/
theorem nameHash_of_mem_loopNames {name : String} (mem : name ∈ loopNames 8) :
    nameHash name = 0 := by
  have own : name ∉ standardNames := fun standard => by
    have short := utf8ByteSize_le_of_mem_standardNames standard
    rw [utf8ByteSize_of_isLower (isLower_of_mem_loopNames mem), length_of_mem_loopNames mem] at short
    omega
  rw [nameHash_eq own, foldl_of_mem_loopNames mem]

/-! ## A full map -/

namespace Headers

variable {h : Headers} {name : String} {zeros ones : Nat}

/-- A map in which no insertion found anything wrong: its names stand in a row, in half of all slots at
most. -/
structure IsCalm (h : Headers) (zeros ones : Nat) : Prop where
  size : h.size = zeros + ones
  danger : h.index.danger = .green
  row : h.index.slots.IsRow zeros ones
  small : h.index.slots.size ≤ 16384
  first : h.index.slots.size = 0 ∨ 8 ≤ h.index.slots.size

/-- So few slots leave room. -/
theorem isFull_of_small (small : h.index.slots.size ≤ 16384) : h.isFull = false := by
  rw [← Bool.not_eq_true, isFull, Option.isNone_iff_eq_none]
  intro full
  have many := Index.lt_of_reserve?_eq_none full
  have most : maxSlots = 32768 := rfl
  omega

theorem reserved_eq {index : Index} (room : h.index.reserve? h.size = some index) :
    h.reserved = index := by
  rw [reserved, room]
  rfl

/-- A new name goes into the index with room for it. -/
theorem index_insert_of_fresh (fresh : name ∉ h.names) (value : Bytes) :
    (h.insert name value).index = h.reserved.add (nameHash name) false ∧
      (h.insert name value).size = h.size + 1 := by
  have unknown : ¬h.contains name = true := fun known => fresh (contains_iff.mp known)
  unfold insert put
  rw [dif_neg unknown]
  exact ⟨rfl, rfl⟩

/-- With no more than 6,561 zeros, the table with room for one more name has half of all slots at
most. -/
theorem IsCalm.reserved (calm : h.IsCalm zeros 0) (few : zeros < 6561) :
    h.reserved.danger = .green ∧ h.reserved.slots.IsRow zeros 0 ∧
      h.reserved.slots.size ≤ 16384 ∧ 8 ≤ h.reserved.slots.size ∧
      zeros + 1 < h.reserved.slots.size := by
  have most : maxSlots = 32768 := rfl
  have count : h.size = zeros := calm.size
  have fits := calm.row.le_size
  have small := calm.small
  have first := calm.first
  by_cases taken : Index.usable h.index.slots.size ≤ zeros
  · by_cases empty : zeros = 0
    · have room : h.index.reserve? h.size =
          some { h.index with slots := Array.replicate 8 none } := by
        rw [Index.reserve?, calm.danger, count]
        simp only [if_pos taken, if_pos empty, calm.danger]
      rw [reserved_eq room, empty]
      exact ⟨calm.danger, Slots.isRow_replicate 8, by simp, by simp, by simp⟩
    · -- Slots are a power of two, so those of which three quarters are taken are a quarter of all.
      have half : h.index.slots.size ≤ 8192 := by
        unfold Index.usable at taken
        refine (h.sized.le_or_le 13).resolve_right fun le => ?_
        have power : 1 <<< (13 + 1) = 16384 := rfl
        omega
      have room : h.index.reserve? h.size = some { h.index with slots := h.index.slots.grow } := by
        rw [Index.reserve?, calm.danger, count]
        simp only [if_pos taken, if_neg empty]
        exact if_neg (by omega)
      have size := h.index.slots.size_grow
      rw [reserved_eq room]
      refine ⟨calm.danger, calm.row.grow (by omega) (by decide), ?_, ?_, ?_⟩
      · dsimp only
        omega
      · dsimp only
        omega
      · dsimp only
        omega
  · have room : h.index.reserve? h.size = some h.index := by
      rw [Index.reserve?, calm.danger, count]
      exact if_neg taken
    rw [reserved_eq room]
    unfold Index.usable at taken
    exact ⟨calm.danger, calm.row, small, by omega, by omega⟩

/-- One more zero changes nothing about that. -/
theorem IsCalm.insert_zero (calm : h.IsCalm zeros 0) (few : zeros < 6561) (fresh : name ∉ h.names)
    (zero : nameHash name = 0) (value : Bytes) : (h.insert name value).IsCalm (zeros + 1) 0 := by
  obtain ⟨danger, row, small, first, free⟩ := calm.reserved few
  obtain ⟨index, size⟩ := h.index_insert_of_fresh fresh value
  rw [zero] at index
  obtain ⟨grown, quiet⟩ := Index.add_zero row (.inl rfl) (by decide) free (by rw [danger]; nofun)
  have slots := h.reserved.size_add 0 false
  exact
    { size := by rw [size, calm.size]
      danger := by
        rw [index, quiet, if_neg (fun far => far.2 rfl)]
        exact danger
      row := by
        rw [index]
        exact grown
      small := by rwa [index, slots]
      first := .inr (by rwa [index, slots]) }

/-- A row of zeros is taken, each of its names in turn. -/
theorem IsCalm.insertAll_zeros {entries : List (String × Bytes)} (calm : h.IsCalm zeros 0)
    (few : zeros + entries.length ≤ 6561) (fresh : ∀ e ∈ entries, e.1 ∉ h.names)
    (distinct : (entries.map (·.1)).Nodup) (hashes : ∀ e ∈ entries, nameHash e.1 = 0) :
    h.takes insertEntry entries = true ∧
      (h.insertAll entries).IsCalm (zeros + entries.length) 0 := by
  induction entries generalizing h zeros with
  | nil => exact ⟨rfl, calm⟩
  | cons e rest ih =>
    rw [List.length_cons] at few ⊢
    rw [List.map_cons, List.nodup_cons] at distinct
    obtain ⟨alone, others⟩ := distinct
    have next := calm.insert_zero (by omega) (fresh e List.mem_cons_self)
      (hashes e List.mem_cons_self) e.2
    have unknown : ∀ g ∈ rest, g.1 ∉ (h.insert e.1 e.2).names := by
      intro g mem known
      rw [names_insert, Finset.mem_insert] at known
      rcases known with same | known
      · exact alone (List.mem_map.mpr ⟨g, mem, same⟩)
      · exact fresh g (List.mem_cons_of_mem _ mem) known
    obtain ⟨taken, last⟩ := ih next (by omega) unknown others fun g mem =>
      hashes g (List.mem_cons_of_mem _ mem)
    rw [Nat.add_right_comm, Nat.add_assoc] at last
    refine ⟨?_, last⟩
    rw [takes, isFull_of_small calm.small]
    exact taken

/-- A map whose names stand in a row in a table of so many slots. -/
structure Stands (h : Headers) (zeros ones slots : Nat) (danger : Danger) : Prop where
  size : h.size = zeros + ones
  row : h.index.slots.IsRow zeros ones
  slots : h.index.slots.size = slots
  danger : h.index.danger = danger

section Stands

variable {slots : Nat} {danger : Danger}

/-- With 6,561 zeros, half of all slots are there: a quarter would not be enough. -/
theorem IsCalm.stands (calm : h.IsCalm 6561 0) : h.Stands 6561 0 16384 .green where
  size := calm.size
  row := calm.row
  danger := calm.danger
  slots := by
    have most : maxSlots = 32768 := rfl
    have small := calm.small
    have enough := h.sized.enough
    have size : h.fields.length = 6561 := calm.size
    unfold Index.usable at enough
    have large : ¬h.index.slots.size ≤ 1 <<< 13 := by
      have power : 1 <<< 13 = 8192 := rfl
      omega
    exact Nat.le_antisymm small ((h.sized.le_or_le 13).resolve_left large)

/-- Without an alarm and with slots left, nothing has to be done for another name. -/
theorem Stands.reserved (stands : h.Stands zeros ones slots .green)
    (free : zeros + ones < Index.usable slots) : h.reserved = h.index := by
  refine reserved_eq ?_
  rw [Index.reserve?, stands.danger, stands.size, stands.slots]
  exact if_neg (Nat.not_le.mpr free)

theorem Stands.insert_one (stands : h.Stands zeros 0 slots .green) (led : 0 < zeros)
    (free : zeros + 1 < Index.usable slots) (fresh : name ∉ h.names) (hash : nameHash name = 1)
    (value : Bytes) : (h.insert name value).Stands zeros 1 slots .green := by
  obtain ⟨index, size⟩ := h.index_insert_of_fresh fresh value
  rw [hash, stands.reserved (by omega)] at index
  unfold Index.usable at free
  obtain ⟨row, quiet⟩ := Index.add_one stands.row led (by rw [stands.slots]; omega)
    (by rw [stands.danger]; nofun)
  have same := h.index.size_add 1 false
  rw [← index] at row quiet same
  exact
    { size := by rw [size, stands.size]
      row
      slots := same.trans stands.slots
      danger := quiet.trans stands.danger }

/-- A zero that comes behind a one far from the front raises the alarm. -/
theorem Stands.insert_zero (stands : h.Stands zeros 1 slots .green)
    (far : Index.farDistance ≤ zeros) (free : zeros + 2 < Index.usable slots)
    (fresh : name ∉ h.names) (hash : nameHash name = 0) (value : Bytes) :
    (h.insert name value).Stands (zeros + 1) 1 slots .yellow := by
  obtain ⟨index, size⟩ := h.index_insert_of_fresh fresh value
  rw [hash, stands.reserved (by omega)] at index
  unfold Index.usable at free
  have led : 0 < zeros := Nat.lt_of_lt_of_le (by decide) far
  obtain ⟨row, alarm⟩ := Index.add_zero stands.row (.inr led) (Nat.le_refl 1)
    (by rw [stands.slots]; omega) (by rw [stands.danger]; nofun)
  have same := h.index.size_add 0 false
  rw [← index] at row alarm same
  rw [if_pos ⟨far, Nat.one_ne_zero⟩] at alarm
  exact
    { size := by rw [size, stands.size]
      row
      slots := same.trans stands.slots
      danger := alarm }

/-- The alarm is answered by a larger table, and the next zero raises it again. -/
theorem Stands.insert_grown (stands : h.Stands zeros 1 slots .yellow)
    (far : Index.farDistance ≤ zeros) (many : slots ≤ 5 * (zeros + 1))
    (most : 2 * slots ≤ maxSlots) (fresh : name ∉ h.names) (hash : nameHash name = 0)
    (value : Bytes) : (h.insert name value).Stands (zeros + 1) 1 (2 * slots) .yellow := by
  have led : 0 < zeros := Nat.lt_of_lt_of_le (by decide) far
  have fits := stands.row.le_size
  obtain ⟨larger, held⟩ : ∃ larger : Index,
      larger = { slots := h.index.slots.grow, danger := .green } := ⟨_, rfl⟩
  have room : h.index.reserve? h.size = some larger := by
    rw [Index.reserve?, stands.danger, stands.size, stands.slots]
    simp only [if_pos many, Index.grow?, stands.slots, if_neg (Nat.not_lt.mpr most), held]
  have grown : larger.slots.size = 2 * slots := by
    rw [held]
    exact h.index.slots.size_grow.trans (by rw [stands.slots])
  have row' : larger.slots.IsRow zeros 1 := by
    rw [held]
    exact stands.row.grow led (Nat.le_refl 1)
  obtain ⟨index, size⟩ := h.index_insert_of_fresh fresh value
  rw [hash, reserved_eq room] at index
  rw [stands.slots] at fits
  have distant : 512 ≤ zeros := far
  obtain ⟨row, alarm⟩ := Index.add_zero row' (.inr led) (Nat.le_refl 1) (by rw [grown]; omega)
    (by rw [held]; nofun)
  have same := larger.size_add 0 false
  rw [← index] at row alarm same
  rw [if_pos ⟨far, Nat.one_ne_zero⟩] at alarm
  exact
    { size := by rw [size, stands.size]
      row
      slots := same.trans grown
      danger := alarm }

theorem Stands.isFull (stands : h.Stands zeros ones maxSlots .yellow)
    (many : maxSlots ≤ 5 * (zeros + ones)) : h.isFull = true := by
  rw [Headers.isFull, Index.reserve?, stands.danger, stands.size, stands.slots]
  simp only [if_pos many, Index.grow?, stands.slots]
  rfl

end Stands

/-- A one behind 6,561 zeros, and two zeros more, and there is no room for another name. -/
theorem IsCalm.isFull_insertAll {one two three : String} (calm : h.IsCalm 6561 0)
    (distinct : [one, two, three].Nodup) (fresh : ∀ name ∈ [one, two, three], name ∉ h.names)
    (hash : nameHash one = 1) (hash' : nameHash two = 0) (hash'' : nameHash three = 0)
    (v w x : Bytes) :
    h.takes insertEntry [(one, v), (two, w), (three, x)] = true ∧
      (h.insertAll [(one, v), (two, w), (three, x)]).isFull = true := by
  have new₂ : two ∉ (h.insert one v).names := by
    have other : two ≠ one := by
      rintro rfl
      simp at distinct
    rw [names_insert, Finset.mem_insert]
    exact not_or.mpr ⟨other, fresh two (by simp)⟩
  have new₃ : three ∉ ((h.insert one v).insert two w).names := by
    have others : three ≠ two ∧ three ≠ one := by
      constructor <;> (rintro rfl; simp at distinct)
    rw [names_insert, names_insert, Finset.mem_insert, Finset.mem_insert]
    exact not_or.mpr ⟨others.1, not_or.mpr ⟨others.2, fresh three (by simp)⟩⟩
  have first := calm.stands.insert_one (by decide) (by decide) (fresh one (by simp)) hash v
  have second := first.insert_zero (by decide) (by decide) new₂ hash' w
  have third := second.insert_grown (by decide) (by decide) (by decide) new₃ hash'' x
  constructor
  · show (!h.isFull && (!(h.insert one v).isFull && (!((h.insert one v).insert two w).isFull &&
      true))) = true
    rw [isFull_of_small calm.small, isFull_of_small (Nat.le_of_eq first.slots),
      isFull_of_small (Nat.le_of_eq second.slots)]
    rfl
  · exact third.isFull (by decide)

end Headers

/-! ## The crowd -/

/-- A one, which stands behind the row of zeros, and two zeros more, which have to move it and so raise
the alarm. -/
def lastNames : List String := ["dmzl", "mozb", "nluy"]

theorem of_mem_lastNames {name : String} (mem : name ∈ lastNames) :
    name.toList.length = 4 ∧ name.toList.all Char.isLower = true := by
  have all : lastNames.all (fun s => s.toList.length == 4 && s.toList.all Char.isLower) = true := by
    decide +kernel
  obtain ⟨short, letters⟩ := Bool.and_eq_true_iff.mp (List.all_eq_true.mp all name mem)
  exact ⟨eq_of_beq short, letters⟩

/-- Names that a map takes one after the other, and then no more. -/
@[irreducible]
def crowd : List String := loopNames 8 ++ lastNames

theorem mem_crowd {name : String} : name ∈ crowd ↔ name ∈ loopNames 8 ∨ name ∈ lastNames := by
  rw [crowd, List.mem_append]

theorem length_crowd : crowd.length = 6564 := by
  rw [crowd, List.length_append, length_loopNames]
  rfl

/-- Names of the crowd have four characters or thirty-six. -/
theorem length_of_mem_crowd {name : String} (mem : name ∈ crowd) :
    name.toList.length = 4 ∨ name.toList.length = 36 := by
  rcases mem_crowd.mp mem with looped | added
  · exact .inr (length_of_mem_loopNames looped)
  · exact .inl (of_mem_lastNames added).1

/-- They are names of metadata as they stand. -/
theorem metadataName?_of_mem_crowd {name : String} (mem : name ∈ crowd) :
    metadataName? name = some name := by
  have letters : name.toList.all Char.isLower = true := by
    rcases mem_crowd.mp mem with looped | added
    · exact isLower_of_mem_loopNames looped
    · exact (of_mem_lastNames added).2
  refine metadataName?_of_isLower letters ?_ ?_
  · rcases length_of_mem_crowd mem with length | length <;> omega
  · rcases length_of_mem_crowd mem with length | length <;> omega

theorem nodup_crowd : crowd.Nodup := by
  rw [crowd, List.nodup_append]
  refine ⟨nodup_loopNames 8, by decide +kernel, fun name looped name' added => ?_⟩
  rintro rfl
  have short := (of_mem_lastNames added).1
  rw [length_of_mem_loopNames looped] at short
  omega

namespace Headers

variable {entries : List (String × Bytes)}

/-- An empty map takes the whole crowd, whatever the values are, and is full then. -/
theorem crowd_fills (named : entries.map (·.1) = crowd) :
    ({} : Headers).takes insertEntry entries = true ∧
      (({} : Headers).insertAll entries).isFull = true := by
  have distinct := nodup_crowd
  rw [← named] at distinct
  rw [crowd] at named
  obtain ⟨front, back, rfl, looped, added⟩ := List.map_eq_append_iff.mp named
  obtain ⟨⟨one, v⟩, behind, rfl, rfl, first⟩ := List.map_eq_cons_iff.mp added
  obtain ⟨⟨two, w⟩, behind, rfl, rfl, second⟩ := List.map_eq_cons_iff.mp first
  obtain ⟨⟨three, x⟩, behind, rfl, rfl, third⟩ := List.map_eq_cons_iff.mp second
  obtain rfl := List.map_eq_nil_iff.mp third
  rw [List.map_append, List.nodup_append] at distinct
  obtain ⟨row, last, apart⟩ := distinct
  have start : ({} : Headers).IsCalm 0 0 :=
    { size := rfl, danger := rfl, row := fun p => rfl, small := Nat.zero_le _, first := .inl rfl }
  have length : front.length = 6561 := by
    calc front.length = (front.map (·.1)).length := (List.length_map _).symm
      _ = (loopNames 8).length := congrArg List.length looped
      _ = 6561 := length_loopNames
  have hashes : ∀ e ∈ front, nameHash e.1 = 0 := fun e mem =>
    nameHash_of_mem_loopNames (looped ▸ List.mem_map.mpr ⟨e, mem, rfl⟩)
  obtain ⟨taken, calm⟩ := start.insertAll_zeros (by omega) (fun e _ => Finset.notMem_empty _) row
    hashes
  rw [length] at calm
  have fresh : ∀ name ∈ lastNames, name ∉ (({} : Headers).insertAll front).names := by
    intro name mem known
    rw [names_insertAll, Finset.mem_union, List.mem_toFinset] at known
    rcases known with known | known
    · exact Finset.notMem_empty _ known
    · exact apart name known name mem rfl
  have one : nameHash "dmzl" = 1 := by decide +kernel
  have two : nameHash "mozb" = 0 := by decide +kernel
  have three : nameHash "nluy" = 0 := by decide +kernel
  obtain ⟨taken', full⟩ := calm.isFull_insertAll last fresh one two three v w x
  rw [takes_append, insertAll, List.foldl_append]
  exact ⟨Bool.and_eq_true_iff.mpr ⟨taken, taken'⟩, full⟩

end Headers

end Http

end Courier
