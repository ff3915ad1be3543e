import Courier.Bytes
import Courier.Crash
import Courier.Http.Index

/-!
# Headers

A header map keeps, for each name, its values in the order in which they came. Names are kept in
lower case; `headerName?` and `isHeaderValue` say which names and values a caller may write, and
`metadataName?` which names are the callers' own. A few of these belong to the protocol: an entry
under one of them does not travel.

Every insertion first makes room in the index of the map, also under a name that is there already. A
map that has no room is full (`Headers.isFull`), and inserting into it is a crash (`Headers.insert?`).
-/

namespace Courier

namespace Http

/-! ## Names and values -/

/-- The characters of a header name. -/
def isNameChar (c : Char) : Bool :=
  c.isAlphanum || "!#$%&'*+-.^_`|~".toList.contains c

/-- The header name that a text spells, in lower case. -/
def headerName? (s : String) : Option String :=
  if s.utf8ByteSize = 0 || 65535 < s.utf8ByteSize || !s.toList.all isNameChar then none
  else some (s.map Char.toLower)

/-- A value holds no control character but the tab. -/
def isValueChar (c : Char) : Bool := c == '\t' || (0x20 ≤ c.toNat && c.toNat != 0x7F)

def isHeaderValue (s : String) : Bool := s.toList.all isValueChar

/-- The text of a value whose bytes are all visible in ASCII, a space or a tab. -/
def visibleText? (value : Bytes) : Option String :=
  if value.all fun b => b == 0x09 || (0x20 ≤ b && b < 0x7F) then value.text? else none

/-! ## The map -/

/-- A name with its values, of which there is one at least. -/
structure Field where
  name : String
  first : Bytes
  more : List Bytes := []
  deriving DecidableEq

def Field.values (f : Field) : List Bytes := f.first :: f.more

/-- The fields without the one of a name. The newest one takes its place. -/
def dropField (name : String) : List Field → List Field
  | [] => []
  | newest :: rest =>
    if newest.name = name then rest
    else if rest.any (·.name == name) then
      rest.map fun g => if g.name = name then newest else g
    else newest :: rest

theorem mem_dropField {name : String} {fields : List Field}
    (distinct : (fields.map (·.name)).Nodup) {f : Field} :
    f ∈ dropField name fields ↔ f ∈ fields ∧ f.name ≠ name := by
  cases fields with
  | nil => simp [dropField]
  | cons newest rest =>
    obtain ⟨alone, -⟩ := List.nodup_cons.mp distinct
    have differs : ∀ g ∈ rest, g.name ≠ newest.name := fun g mem same =>
      alone (List.mem_map.mpr ⟨g, mem, same⟩)
    rw [dropField, List.mem_cons]
    by_cases first : newest.name = name
    · rw [if_pos first]
      constructor
      · exact fun mem => ⟨.inr mem, first ▸ differs f mem⟩
      · rintro ⟨rfl | mem, other⟩
        · exact absurd first other
        · exact mem
    · rw [if_neg first]
      split
      · next there =>
        obtain ⟨gone, mem, same⟩ := List.any_eq_true.mp there
        rw [List.mem_map]
        constructor
        · rintro ⟨g, mem, rfl⟩
          split
          · exact ⟨.inl rfl, first⟩
          · next other => exact ⟨.inr mem, other⟩
        · rintro ⟨rfl | mem, other⟩
          · exact ⟨gone, mem, if_pos (eq_of_beq same)⟩
          · exact ⟨f, mem, if_neg other⟩
      · next absent =>
        rw [List.mem_cons]
        refine iff_self_and.mpr ?_
        rintro (rfl | mem) same
        · exact first same
        · exact absent (List.any_eq_true.mpr ⟨f, mem, beq_iff_eq.mpr same⟩)

theorem length_dropField_le (name : String) (fields : List Field) :
    (dropField name fields).length ≤ fields.length := by
  cases fields with
  | nil => exact Nat.le_refl _
  | cons newest rest =>
    rw [dropField]
    split
    · exact Nat.le_succ _
    · split
      · rw [List.length_map]
        exact Nat.le_succ _
      · exact Nat.le_refl _

theorem nodup_dropField {fields : List Field} (distinct : (fields.map (·.name)).Nodup)
    (name : String) : ((dropField name fields).map (·.name)).Nodup := by
  cases fields with
  | nil => exact distinct
  | cons newest rest =>
    obtain ⟨alone, others⟩ := List.nodup_cons.mp distinct
    rw [dropField]
    split
    · exact others
    · split
      · -- The newest name comes where another one goes, and it was nowhere else.
        rw [List.map_map, List.Nodup, List.pairwise_map]
        have apart : rest.Pairwise fun g g' => g.name ≠ g'.name := List.pairwise_map.mp others
        refine apart.imp_of_mem fun {g g'} mem mem' differ => ?_
        have new : ∀ g ∈ rest, g.name ≠ newest.name := fun g mem same =>
          alone (List.mem_map.mpr ⟨g, mem, same⟩)
        dsimp only [Function.comp]
        split <;> split
        · next same same' => exact fun _ => differ (same.trans same'.symm)
        · exact (new g' mem').symm
        · exact new g mem
        · exact differ
      · exact distinct

theorem dropField_of_not_mem {name : String} {fields : List Field}
    (absent : name ∉ fields.map (·.name)) : dropField name fields = fields := by
  cases fields with
  | nil => rfl
  | cons newest rest =>
    obtain ⟨other, others⟩ := not_or.mp (mt List.mem_cons.mpr absent)
    have none : ¬rest.any (·.name == name) = true := fun any => by
      obtain ⟨f, mem, same⟩ := List.any_eq_true.mp any
      exact others (List.mem_map.mpr ⟨f, mem, eq_of_beq same⟩)
    rw [dropField, if_neg (Ne.symm other), if_neg none]

theorem nodup_no_names : (([] : List Field).map (·.name)).Nodup := List.nodup_nil

/-- Fields of different names, the newest one first, and the index of their names. -/
structure Headers where
  fields : List Field := []
  index : Index := {}
  distinct : (fields.map (·.name)).Nodup := by exact Courier.Http.nodup_no_names
  sized : index.Holds fields.length := by exact Courier.Http.Index.holds_empty
  deriving DecidableEq

namespace Headers

/-- The names with each of their values, the oldest name first. -/
def entries (h : Headers) : List (String × Bytes) :=
  h.fields.reverse.flatMap fun f => f.values.map fun value => (f.name, value)

/-- The number of names. -/
def size (h : Headers) : Nat := h.fields.length

def field? (h : Headers) (name : String) : Option Field := h.fields.find? (·.name == name)

def values (h : Headers) (name : String) : List Bytes := (h.field? name).elim [] Field.values

/-- The first value of a name. -/
def get? (h : Headers) (name : String) : Option Bytes := (h.field? name).map (·.first)

def contains (h : Headers) (name : String) : Bool := h.fields.any (·.name == name)

/-- Whether there is no room for another entry. -/
def isFull (h : Headers) : Bool := (h.index.reserve? h.size).isNone

/-- The index with room for another name, where it can be made. -/
def reserved (h : Headers) : Index := (h.index.reserve? h.size).getD h.index

theorem holds_reserved (h : Headers) :
    h.reserved.Holds (h.fields.length + 1) ∧ 0 < h.reserved.slots.size := by
  unfold reserved
  cases room : h.index.reserve? h.size with
  | none => exact h.sized.of_full room
  | some index => exact h.sized.of_reserve? room

/-- With a field, or with `join` made of the field that has its name. -/
def put (h : Headers) (f : Field) (join : Field → Field) (watched : Bool) : Headers :=
  if known : h.contains f.name then
    { fields := h.fields.map fun g => if g.name = f.name then { join g with name := f.name } else g
      index := h.reserved
      distinct := by
        rw [List.map_map]
        have same : ((·.name) ∘ fun g : Field =>
            if g.name = f.name then { join g with name := f.name } else g) = (·.name) := by
          funext g
          by_cases named : g.name = f.name <;> simp [named]
        rw [same]
        exact h.distinct
      sized := by
        rw [List.length_map]
        exact h.holds_reserved.1.mono (Nat.le_succ _) }
  else
    { fields := f :: h.fields
      index := h.reserved.add (nameHash f.name) watched
      distinct := by
        refine List.nodup_cons.mpr ⟨fun mem => known ?_, h.distinct⟩
        obtain ⟨g, mem, same⟩ := List.mem_map.mp mem
        exact List.any_eq_true.mpr ⟨g, mem, beq_iff_eq.mpr same⟩
      sized := h.holds_reserved.1.add h.holds_reserved.2 _ _ }

/-- With one more value of a name. -/
def append (h : Headers) (name : String) (value : Bytes) : Headers :=
  h.put { name, first := value } (fun g => { g with more := g.more ++ [value] }) false

/-- With `value` as the only value of `name`. -/
def insert (h : Headers) (name : String) (value : Bytes) : Headers :=
  h.put { name, first := value } (fun _ => { name, first := value }) false

/-- With the values of a field as the only ones of its name. -/
def replace (h : Headers) (f : Field) : Headers := h.put f (fun _ => f) true

/-- Without a name. -/
def erase (h : Headers) (name : String) : Headers where
  fields := dropField name h.fields
  index := if h.contains name then h.index.remove (nameHash name) else h.index
  distinct := nodup_dropField h.distinct name
  sized := by
    have fewer := h.sized.mono (length_dropField_le name h.fields)
    split
    · exact fewer.remove _
    · exact fewer

/-- With `value` as the only value of `name`, as long as the map is not full. -/
def insert? (h : Headers) (name : String) (value : Bytes) : Except Crash Headers :=
  if h.isFull then .error .headersFull else .ok (h.insert name value)

/-! ## Many entries -/

def ofList (entries : List (String × Bytes)) : Headers :=
  entries.foldl (fun h e => h.append e.1 e.2) {}

/-- Whether all of these find room, one after the other, if `put` is how they are put in. -/
def takes {α : Type} (put : Headers → α → Headers) (h : Headers) : List α → Bool
  | [] => true
  | a :: as => !h.isFull && (put h a).takes put as

def insertEntry (h : Headers) (e : String × Bytes) : Headers := h.insert e.1 e.2

/-- With each of these as the only value of its name. -/
def insertAll (h : Headers) (entries : List (String × Bytes)) : Headers :=
  entries.foldl insertEntry h

/-- With all fields of `other`, which replace those of the same names here. -/
def extend (h other : Headers) : Headers := other.fields.reverse.foldl replace h

/-- Whether all fields of `other` find room. -/
def fits (h other : Headers) : Bool := h.takes replace other.fields.reverse

end Headers

end Http

/-! ## Metadata -/

/-- The names that the protocol keeps to itself. -/
def reservedHeaders : List String :=
  ["te", "content-type", "grpc-message", "grpc-message-type", "grpc-status"]

/-- Without the entries whose names the protocol keeps to itself. -/
def Http.Headers.sanitized (h : Http.Headers) : Http.Headers := reservedHeaders.foldl .erase h

/-- The name of a piece of metadata, in lower case. Names that end in `-bin` hold bytes, not
text. -/
def metadataName? (s : String) : Option String :=
  match Http.headerName? s with
  | some name => if "-bin".toList.isSuffixOf name.toList then none else some name
  | none => none

end Courier
