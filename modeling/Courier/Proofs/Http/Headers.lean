import Courier.Http.Headers
import Mathlib.Data.Finset.Card
import Mathlib.Data.Finset.Lattice.Lemmas

/-!
# Header maps by their names

Every operation on a header map is described twice: by what it does to the set of names and by what
it does to the values of a name. How much room there is depends on the hashes of the names as well,
but two bounds do not: a map with fewer than 6,554 names always has room (`le_of_isFull`), and none
has more than 24,576 (`isFull_of_le`).
-/

namespace Courier.Http

namespace Headers

variable {h : Headers} {name other : String}

/-! ## Fields and names -/

/-- The names in a map. -/
def names (h : Headers) : Finset String := (h.fields.map (·.name)).toFinset

theorem mem_names : name ∈ h.names ↔ ∃ f ∈ h.fields, f.name = name := by
  rw [names, List.mem_toFinset, List.mem_map]

theorem size_eq_card (h : Headers) : h.size = h.names.card := by
  rw [names, List.toFinset_card_of_nodup h.distinct, List.length_map, size]

theorem contains_iff : h.contains name = true ↔ name ∈ h.names := by
  rw [mem_names, contains, List.any_eq_true]
  simp only [beq_iff_eq]

theorem of_field?_eq_some {f : Field} (found : h.field? name = some f) :
    f ∈ h.fields ∧ f.name = name := by
  have named : (f.name == name) = true := List.find?_some (p := fun g : Field => g.name == name) found
  exact ⟨List.mem_of_find?_eq_some found, eq_of_beq named⟩

/-- Names are different, so a field is found by its name. -/
theorem field?_eq_some_iff {f : Field} :
    h.field? name = some f ↔ f ∈ h.fields ∧ f.name = name := by
  refine ⟨of_field?_eq_some, ?_⟩
  rintro ⟨mem, rfl⟩
  cases found : h.field? f.name with
  | none => exact absurd (beq_self_eq_true f.name) (List.find?_eq_none.mp found f mem)
  | some g =>
    obtain ⟨there, same⟩ := of_field?_eq_some found
    rw [List.inj_on_of_nodup_map h.distinct there mem same]

theorem field?_eq_none_iff : h.field? name = none ↔ name ∉ h.names := by
  rw [mem_names, field?, List.find?_eq_none]
  simp only [beq_iff_eq, not_exists, not_and]

/-- Two maps have the same field under a name if it is in both or in neither. -/
theorem field?_congr {h' : Headers}
    (same : ∀ f : Field, f.name = name → (f ∈ h.fields ↔ f ∈ h'.fields)) :
    h.field? name = h'.field? name := by
  refine Option.ext fun f => ?_
  rw [field?_eq_some_iff, field?_eq_some_iff]
  exact ⟨fun ⟨mem, named⟩ => ⟨(same f named).mp mem, named⟩,
    fun ⟨mem, named⟩ => ⟨(same f named).mpr mem, named⟩⟩

/-- A name without a value is not in the map. -/
theorem get?_eq_none_iff : h.get? name = none ↔ name ∉ h.names := by
  rw [get?, Option.map_eq_none_iff, field?_eq_none_iff]

/-- The first value is that of `values`. -/
theorem get?_eq_head? (h : Headers) (name : String) : h.get? name = (h.values name).head? := by
  rw [get?, values]
  cases h.field? name <;> rfl

/-! ## Putting in a field -/

section Put

variable (f : Field) (join : Field → Field) (watched : Bool)

theorem names_put : (h.put f join watched).names = Insert.insert f.name h.names := by
  unfold put
  split
  · next known =>
    rw [Finset.insert_eq_of_mem (contains_iff.mp known)]
    show List.toFinset (List.map (fun g : Field => g.name) (h.fields.map _)) = _
    rw [List.map_map, names]
    congr 2
    funext g
    by_cases named : g.name = f.name <;> simp [named]
  · show (f.name :: h.fields.map (·.name)).toFinset = _
    rw [List.toFinset_cons, names]

/-- Under its own name a field is found as it was put in, or joined to the one that was there. -/
theorem field?_put_self :
    (h.put f join watched).field? f.name =
      some ((h.field? f.name).elim f fun g => { join g with name := f.name }) := by
  rw [field?_eq_some_iff]
  cases found : h.field? f.name with
  | none =>
    have fresh : ¬h.contains f.name = true :=
      fun known => field?_eq_none_iff.mp found (contains_iff.mp known)
    rw [put, dif_neg fresh]
    exact ⟨List.mem_cons_self, rfl⟩
  | some g =>
    obtain ⟨mem, named⟩ := field?_eq_some_iff.mp found
    have known : h.contains f.name = true := contains_iff.mpr (mem_names.mpr ⟨g, mem, named⟩)
    rw [put, dif_pos known]
    exact ⟨List.mem_map.mpr ⟨g, mem, if_pos named⟩, rfl⟩

theorem field?_put_of_ne (ne : other ≠ f.name) :
    (h.put f join watched).field? other = h.field? other := by
  refine field?_congr fun g named => ?_
  unfold put
  split
  · rw [List.mem_map]
    constructor
    · rintro ⟨g', mem, rfl⟩
      split at named
      · exact absurd named.symm ne
      · next own => rwa [if_neg own]
    · exact fun mem => ⟨g, mem, if_neg (named ▸ ne)⟩
  · refine List.mem_cons.trans (or_iff_right ?_)
    rintro rfl
    exact ne named.symm

end Put

section Writing

variable (h) (name)

theorem names_insert (value : Bytes) : (h.insert name value).names = Insert.insert name h.names :=
  names_put ..

theorem names_append (value : Bytes) : (h.append name value).names = Insert.insert name h.names :=
  names_put ..

theorem names_replace (f : Field) : (h.replace f).names = Insert.insert f.name h.names :=
  names_put ..

theorem field?_insert_self (value : Bytes) :
    (h.insert name value).field? name = some { name, first := value } := by
  rw [insert, field?_put_self { name, first := value }]
  cases h.field? name <;> rfl

theorem values_insert_self (value : Bytes) : (h.insert name value).values name = [value] := by
  rw [values, field?_insert_self]
  rfl

theorem get?_insert_self (value : Bytes) : (h.insert name value).get? name = some value := by
  rw [get?, field?_insert_self]
  rfl

variable {name}

theorem field?_insert_of_ne (value : Bytes) (ne : other ≠ name) :
    (h.insert name value).field? other = h.field? other :=
  field?_put_of_ne _ _ _ ne

theorem values_insert_of_ne (value : Bytes) (ne : other ≠ name) :
    (h.insert name value).values other = h.values other := by
  rw [values, field?_insert_of_ne h value ne, values]

theorem get?_insert_of_ne (value : Bytes) (ne : other ≠ name) :
    (h.insert name value).get? other = h.get? other := by
  rw [get?, field?_insert_of_ne h value ne, get?]

end Writing

/-! ## Erasing -/

theorem mem_erase {f : Field} : f ∈ (h.erase name).fields ↔ f ∈ h.fields ∧ f.name ≠ name :=
  mem_dropField h.distinct

theorem names_erase (h : Headers) (name : String) : (h.erase name).names = h.names.erase name := by
  ext other
  rw [Finset.mem_erase, mem_names, mem_names]
  constructor
  · rintro ⟨f, mem, rfl⟩
    obtain ⟨there, ne⟩ := mem_erase.mp mem
    exact ⟨ne, f, there, rfl⟩
  · rintro ⟨ne, f, there, rfl⟩
    exact ⟨f, mem_erase.mpr ⟨there, ne⟩, rfl⟩

theorem field?_erase_self (h : Headers) (name : String) : (h.erase name).field? name = none := by
  rw [field?_eq_none_iff, names_erase]
  exact Finset.notMem_erase _ _

theorem field?_erase_of_ne (h : Headers) (ne : other ≠ name) :
    (h.erase name).field? other = h.field? other :=
  field?_congr fun _ named => mem_erase.trans (and_iff_left (named ▸ ne))

/-- A name that is not there can be erased for free. -/
theorem erase_of_not_mem (fresh : name ∉ h.names) : h.erase name = h := by
  have same : dropField name h.fields = h.fields := dropField_of_not_mem fun mem =>
    fresh (List.mem_toFinset.mpr mem)
  have untouched : ¬h.contains name = true := fun known => fresh (contains_iff.mp known)
  unfold erase
  simp only [same, if_neg untouched]

/-- Headers without a name of the protocol all travel. -/
theorem sanitized_eq_self (own : ∀ name ∈ reservedHeaders, name ∉ h.names) : h.sanitized = h := by
  have kept : ∀ reserved : List String, (∀ name ∈ reserved, name ∉ h.names) →
      reserved.foldl erase h = h := by
    intro reserved absent
    induction reserved with
    | nil => rfl
    | cons name rest ih =>
      rw [List.foldl_cons, erase_of_not_mem (absent name List.mem_cons_self)]
      exact ih fun other mem => absent other (List.mem_cons_of_mem _ mem)
  exact kept reservedHeaders own

/-- Without names that are erased one after the other, the others stay as they are. -/
theorem field?_foldl_erase (reserved : List String) (h : Headers) (name : String) :
    (reserved.foldl erase h).field? name = if name ∈ reserved then none else h.field? name := by
  induction reserved generalizing h with
  | nil => rfl
  | cons first rest ih =>
    rw [List.foldl_cons, ih]
    by_cases same : name = first
    · subst same
      simp only [field?_erase_self, List.mem_cons_self, if_true, ite_self]
    · rw [field?_erase_of_ne h same]
      simp only [List.mem_cons, same, false_or]

/-- A name that the protocol keeps to itself does not travel; the others do. -/
theorem values_sanitized (h : Headers) (name : String) :
    h.sanitized.values name = if name ∈ reservedHeaders then [] else h.values name := by
  rw [values, sanitized, field?_foldl_erase]
  split <;> rfl

theorem names_sanitized (h : Headers) : h.sanitized.names = h.names \ reservedHeaders.toFinset := by
  ext name
  rw [Finset.mem_sdiff, List.mem_toFinset, ← not_iff_not, ← field?_eq_none_iff, sanitized,
    field?_foldl_erase, not_and_not_right, ite_eq_left_iff, field?_eq_none_iff]
  exact ⟨fun absent there => by_contra fun own => absent own there,
    fun kept own there => own (kept there)⟩

/-! ## Many entries -/

theorem names_insertAll (h : Headers) (entries : List (String × Bytes)) :
    (h.insertAll entries).names = h.names ∪ (entries.map (·.1)).toFinset := by
  induction entries generalizing h with
  | nil => exact (Finset.union_empty _).symm
  | cons e rest ih =>
    show ((h.insert e.1 e.2).insertAll rest).names = _
    rw [ih, names_insert, List.map_cons, List.toFinset_cons, Finset.insert_union,
      Finset.union_insert]

/-- The values of a name in a list of entries. -/
def valuesIn (name : String) (entries : List (String × Bytes)) : List Bytes :=
  (entries.filter (·.1 == name)).map (·.2)

/-- The last value of a name replaces all others. -/
theorem values_insertAll (h : Headers) (entries : List (String × Bytes)) (name : String) :
    (h.insertAll entries).values name =
      match (valuesIn name entries).getLast? with
      | some v => [v]
      | none => h.values name := by
  induction entries generalizing h with
  | nil => rfl
  | cons e rest ih =>
    show ((h.insert e.1 e.2).insertAll rest).values name = _
    rw [ih]
    by_cases same : e.1 = name
    · have front : valuesIn name (e :: rest) = e.2 :: valuesIn name rest := by
        simp [valuesIn, same]
      rw [front, List.getLast?_cons, ← same, values_insert_self]
      cases (valuesIn e.1 rest).getLast? <;> rfl
    · have front : valuesIn name (e :: rest) = valuesIn name rest := by simp [valuesIn, same]
      rw [front, values_insert_of_ne h e.2 (Ne.symm same)]

/-- A map that is built from a list has its names. -/
theorem names_ofList (entries : List (String × Bytes)) :
    (ofList entries).names = (entries.map (·.1)).toFinset := by
  have onto : ∀ (h : Headers), (entries.foldl (fun h e => h.append e.1 e.2) h).names =
      h.names ∪ (entries.map (·.1)).toFinset := by
    induction entries with
    | nil => exact fun h => (Finset.union_empty _).symm
    | cons e rest ih =>
      intro h
      rw [List.foldl_cons, ih, names_append, List.map_cons, List.toFinset_cons,
        Finset.insert_union, Finset.union_insert]
  exact (onto {}).trans (Finset.empty_union _)

theorem names_extend (h other : Headers) : (h.extend other).names = h.names ∪ other.names := by
  have onto : ∀ (fields : List Field) (h : Headers),
      (fields.foldl replace h).names = h.names ∪ (fields.map (·.name)).toFinset := by
    intro fields
    induction fields with
    | nil => exact fun h => (Finset.union_empty _).symm
    | cons f rest ih =>
      intro h
      rw [List.foldl_cons, ih, names_replace, List.map_cons, List.toFinset_cons,
        Finset.insert_union, Finset.union_insert]
  rw [extend, onto, List.map_reverse, List.toFinset_reverse, ← names]

/-- Nothing is gained from an empty map. -/
theorem extend_empty (h : Headers) : h.extend {} = h := rfl

/-! ## Maps without a second value -/

/-- Every name has one value. -/
def IsSingle (h : Headers) : Prop := ∀ f ∈ h.fields, f.more = []

/-- Then there are as many entries as names. -/
theorem IsSingle.length_entries (single : h.IsSingle) : h.entries.length = h.names.card := by
  have ones : ∀ fields : List Field, (∀ f ∈ fields, f.more = []) →
      (fields.flatMap fun f => f.values.map fun value => (f.name, value)).length =
        fields.length := by
    intro fields alone
    induction fields with
    | nil => rfl
    | cons f rest ih =>
      obtain ⟨first, others⟩ := List.forall_mem_cons.mp alone
      rw [List.flatMap_cons, List.length_append, ih others, Field.values, first, List.length_map,
        List.length_singleton, List.length_cons, Nat.add_comm]
  rw [entries, ones _ fun f mem => single f (List.mem_reverse.mp mem), List.length_reverse,
    ← size, size_eq_card]

/-- Inserting replaces what stood under the name, so it makes no second value. -/
theorem IsSingle.insert (single : h.IsSingle) (name : String) (value : Bytes) :
    (h.insert name value).IsSingle := by
  intro f
  unfold Headers.insert put
  split
  · rw [List.mem_map]
    rintro ⟨g, mem, rfl⟩
    split
    · rfl
    · exact single g mem
  · rw [List.mem_cons]
    rintro (rfl | mem)
    · rfl
    · exact single f mem

theorem IsSingle.insertAll (single : h.IsSingle) (entries : List (String × Bytes)) :
    (h.insertAll entries).IsSingle := by
  induction entries generalizing h with
  | nil => exact single
  | cons e rest ih => exact ih (single.insert e.1 e.2)

/-! ## Room -/

/-- Fewer than 6,554 names always leave room. -/
theorem le_of_isFull (full : h.isFull = true) : 6554 ≤ h.names.card := by
  rw [isFull, Option.isNone_iff_eq_none] at full
  rw [← size_eq_card]
  exact h.sized.le_of_reserve?_eq_none full

theorem isFull_of_few (few : h.names.card < 6554) : h.isFull = false := by
  rw [← Bool.not_eq_true]
  exact fun full => Nat.not_le.mpr few (le_of_isFull full)

/-- With 24,576 names there is no room, whatever they are. -/
theorem isFull_of_le (many : 24576 ≤ h.names.card) : h.isFull = true := by
  rw [isFull, Option.isNone_iff_eq_none]
  rw [← size_eq_card] at many
  exact h.sized.reserve?_eq_none many

theorem insert?_of_room (room : h.isFull = false) (name : String) (value : Bytes) :
    h.insert? name value = .ok (h.insert name value) := by
  rw [insert?, room]
  rfl

theorem insert?_of_full (full : h.isFull = true) (name : String) (value : Bytes) :
    h.insert? name value = .error .headersFull := by
  rw [insert?, if_pos full]

section Takes

variable {α : Type} {put : Headers → α → Headers} {nameOf : α → String}

/-- Entries whose names make fewer than 6,554 together with those of a map all find room. The names of
the rest count from the start, so none of them finds the map full. -/
theorem takes_of_few (puts : ∀ h a, (put h a).names = Insert.insert (nameOf a) h.names)
    {as : List α} (few : (h.names ∪ (as.map nameOf).toFinset).card < 6554) :
    h.takes put as = true := by
  induction as generalizing h with
  | nil => rfl
  | cons a rest ih =>
    have now : h.isFull = false := isFull_of_few
      (Nat.lt_of_le_of_lt (Finset.card_le_card Finset.subset_union_left) few)
    rw [takes, now, ih]
    · rfl
    · rw [puts, Finset.insert_union, ← Finset.union_insert, ← List.toFinset_cons, ← List.map_cons]
      exact few

/-- Entries that all find room make no more than 24,576 names together with those of a map that has
no more. -/
theorem card_of_takes (puts : ∀ h a, (put h a).names = Insert.insert (nameOf a) h.names)
    {as : List α} (taken : h.takes put as = true) (held : h.names.card ≤ 24576) :
    (h.names ∪ (as.map nameOf).toFinset).card ≤ 24576 := by
  induction as generalizing h with
  | nil =>
    rw [List.map_nil, List.toFinset_nil, Finset.union_empty]
    exact held
  | cons a rest ih =>
    rw [takes, Bool.and_eq_true, Bool.not_eq_true'] at taken
    obtain ⟨room, others⟩ := taken
    have below : h.names.card < 24576 := by
      by_contra many
      rw [isFull_of_le (Nat.not_lt.mp many)] at room
      cases room
    have grown : (put h a).names.card ≤ 24576 := by
      rw [puts]
      exact (Finset.card_insert_le _ _).trans below
    have all := ih others grown
    rw [puts, Finset.insert_union, ← Finset.union_insert, ← List.toFinset_cons, ← List.map_cons] at all
    exact all

/-- If one of them finds no room, those before it did. -/
theorem exists_full_of_takes_eq_false {as : List α} (refused : h.takes put as = false) :
    ∃ front a back, as = front ++ a :: back ∧ h.takes put front = true ∧
      (front.foldl put h).isFull = true := by
  induction as generalizing h with
  | nil => cases refused
  | cons a rest ih =>
    cases full : h.isFull with
    | true => exact ⟨[], a, rest, rfl, rfl, full⟩
    | false =>
      rw [takes, full] at refused
      obtain ⟨front, b, back, rfl, taken, last⟩ := ih refused
      refine ⟨a :: front, b, back, rfl, ?_, last⟩
      rw [takes, full]
      exact taken

theorem takes_append (h : Headers) (as bs : List α) :
    h.takes put (as ++ bs) = (h.takes put as && (as.foldl put h).takes put bs) := by
  induction as generalizing h with
  | nil => rfl
  | cons a rest ih => rw [List.cons_append, takes, takes, ih, Bool.and_assoc, List.foldl_cons]

end Takes

theorem toFinset_names_reverse (h : Headers) :
    (h.fields.reverse.map (·.name)).toFinset = h.names := by
  rw [List.map_reverse, List.toFinset_reverse, names]

theorem fits_of_few {other : Headers} (few : (h.names ∪ other.names).card < 6554) :
    h.fits other = true := by
  refine takes_of_few names_replace ?_
  rw [toFinset_names_reverse]
  exact few

theorem not_fits_of_many {other : Headers} (held : h.names.card ≤ 24576)
    (many : 24576 < (h.names ∪ other.names).card) : h.fits other = false := by
  rw [← Bool.not_eq_true]
  intro fits
  have all := card_of_takes names_replace fits held
  rw [toFinset_names_reverse] at all
  exact Nat.not_le.mpr many all

end Headers

end Courier.Http
