import Courier.Bytes

/-!
# The index of a header map

A header map finds a name through a table of slots. The hash of a name asks for one slot, and the
name stands in it or in one of those behind it: the farther a name is from the slot it asks for, the
earlier its place (Robin Hood hashing). A table grows when three quarters of it are taken.

Names with one hash make long rows. An insertion that finds such a row raises an alarm, and the next
insertion answers it: a table with enough names grows, any other is built anew with hashes that
nobody can foresee. No table has more than 2^15 slots, so an index that has to grow beyond that has
no room (`Index.reserve?`), and this may happen long before all slots are taken.

Only hashes are kept in the slots: names with the same hash are not told apart.
-/

namespace Courier.Http

/-! ## Hashes -/

/-- The names that are hashed by their place in this list. -/
def standardNames : List String :=
  ["accept", "accept-charset", "accept-encoding", "accept-language", "accept-ranges",
    "access-control-allow-credentials", "access-control-allow-headers",
    "access-control-allow-methods", "access-control-allow-origin", "access-control-expose-headers",
    "access-control-max-age", "access-control-request-headers", "access-control-request-method",
    "age", "allow", "alt-svc", "authorization", "cache-control", "cache-status",
    "cdn-cache-control", "connection", "content-disposition", "content-encoding",
    "content-language", "content-length", "content-location", "content-range",
    "content-security-policy", "content-security-policy-report-only", "content-type", "cookie",
    "dnt", "date", "etag", "expect", "expires", "forwarded", "from", "host", "if-match",
    "if-modified-since", "if-none-match", "if-range", "if-unmodified-since", "last-modified",
    "link", "location", "max-forwards", "origin", "pragma", "proxy-authenticate",
    "proxy-authorization", "public-key-pins", "public-key-pins-report-only", "range", "referer",
    "referrer-policy", "refresh", "retry-after", "sec-websocket-accept",
    "sec-websocket-extensions", "sec-websocket-key", "sec-websocket-protocol",
    "sec-websocket-version", "server", "set-cookie", "strict-transport-security", "te", "trailer",
    "transfer-encoding", "user-agent", "upgrade", "upgrade-insecure-requests", "vary", "via",
    "warning", "www-authenticate", "x-content-type-options", "x-dns-prefetch-control",
    "x-frame-options", "x-xss-protection"]

/-- A number below 256 in eight bytes, the lowest first. -/
def wordBytes (n : Nat) : Bytes := UInt8.ofNat n :: List.replicate 7 0

/-- What is hashed of a name: whether it is a standard one, and its place or the name itself. -/
def hashedBytes (name : String) : Bytes :=
  match standardNames.idxOf? name with
  | some place => wordBytes 0 ++ wordBytes place
  | none => wordBytes 1 ++ utf8 name

/-- One step of FNV-1a with 64 bits. -/
def fnvStep (hash : Nat) (b : UInt8) : Nat := (hash ^^^ b.toNat) * 0x100000001B3 % (1 <<< 64)

/-- The most slots that a table has. -/
def maxSlots : Nat := 1 <<< 15

/-- The hash of a name: FNV-1a, as much of it as there are slots. -/
def nameHash (name : String) : Nat :=
  (hashedBytes name).foldl fnvStep 0xCBF29CE484222325 % maxSlots

/-! ## Tables -/

/-- Slots with the hashes of the names that stand in them. -/
abbrev Slots := Array (Option Nat)

namespace Slots

/-- How far slot `p` is behind the slot that a hash asks for. -/
def distance (slots : Slots) (hash p : Nat) : Nat :=
  (p + slots.size - hash % slots.size) % slots.size

/-- The slot at a distance from the one that a hash asks for. -/
def behind (slots : Slots) (hash d : Nat) : Nat := (hash + d) % slots.size

/-- The distance at which a new hash goes in: at an empty slot or before one that is nearer to what it
asks for. The search starts at `d` and looks at `fuel` slots. -/
def entry (slots : Slots) (hash : Nat) : (fuel d : Nat) → Nat
  | 0, d => d
  | fuel + 1, d =>
    let p := slots.behind hash d
    match slots.getD p none with
    | none => d
    | some other =>
      if slots.distance other p < d then d else entry slots hash fuel (d + 1)

/-- Puts a hash into slot `p` and moves what stood there and behind it on by one, up to the next
empty slot. The second part is the number of hashes that are moved. -/
def push (slots : Slots) (p hash : Nat) : (fuel : Nat) → Slots × Nat
  | 0 => (slots, 0)
  | fuel + 1 =>
    match slots.getD p none with
    | none => (slots.setIfInBounds p (some hash), 0)
    | some other =>
      let (slots, moved) :=
        push (slots.setIfInBounds p (some hash)) ((p + 1) % slots.size) other fuel
      (slots, moved + 1)

/-- The distance from which on the slots that a hash asks for are not all taken. -/
def gap (slots : Slots) (hash : Nat) : (fuel d : Nat) → Nat
  | 0, d => d
  | fuel + 1, d =>
    match slots.getD (slots.behind hash d) none with
    | none => d
    | some _ => gap slots hash fuel (d + 1)

/-- Takes over a slot of a smaller table. -/
def takeOver (slots : Slots) : Option Nat → Slots
  | none => slots
  | some hash =>
    slots.setIfInBounds (slots.behind hash (slots.gap hash slots.size 0)) (some hash)

/-- Whether the hash in slot `p` asks for it. -/
def isIdeal (slots : Slots) (p : Nat) : Bool :=
  match slots.getD p none with
  | none => false
  | some hash => slots.distance hash p == 0

/-- A table with twice as many slots. The old ones are taken over in their order, from one on that
holds what asks for it. -/
def grow (slots : Slots) : Slots :=
  let first := ((List.range slots.size).find? slots.isIdeal).getD 0
  (slots.toList.drop first ++ slots.toList.take first).foldl takeOver
    (Array.replicate (2 * slots.size) none)

/-- The distance at which a hash stands, if it does. -/
def find? (slots : Slots) (hash : Nat) : (fuel d : Nat) → Option Nat
  | 0, _ => none
  | fuel + 1, d =>
    let p := slots.behind hash d
    match slots.getD p none with
    | none => none
    | some other =>
      if slots.distance other p < d then none
      else if other = hash then some d
      else find? slots hash fuel (d + 1)

/-- Moves what is behind the empty slot `p` back by one, as far as it does not stand in the slot that
it asks for. -/
def close (slots : Slots) (p : Nat) : (fuel : Nat) → Slots
  | 0 => slots
  | fuel + 1 =>
    let next := (p + 1) % slots.size
    match slots.getD next none with
    | none => slots
    | some hash =>
      if slots.distance hash next = 0 then slots
      else close ((slots.setIfInBounds p (some hash)).setIfInBounds next none) next fuel

/-- Without one of the names with a hash. -/
def remove (slots : Slots) (hash : Nat) : Slots :=
  match slots.find? hash slots.size 0 with
  | none => slots
  | some d =>
    let p := slots.behind hash d
    close (slots.setIfInBounds p none) p slots.size

/-! ### Sizes -/

theorem size_push (slots : Slots) (p hash fuel : Nat) :
    (slots.push p hash fuel).1.size = slots.size := by
  induction fuel generalizing slots p hash with
  | zero => rfl
  | succ fuel ih =>
    unfold push
    split
    · exact Array.size_setIfInBounds
    · exact (ih ..).trans Array.size_setIfInBounds

theorem size_takeOver (slots : Slots) (slot : Option Nat) :
    (slots.takeOver slot).size = slots.size := by
  cases slot with
  | none => rfl
  | some hash => exact Array.size_setIfInBounds

theorem size_foldl_takeOver (slots : Slots) (old : List (Option Nat)) :
    (old.foldl takeOver slots).size = slots.size := by
  induction old generalizing slots with
  | nil => rfl
  | cons slot old ih => exact (ih _).trans (size_takeOver ..)

theorem size_grow (slots : Slots) : slots.grow.size = 2 * slots.size :=
  (size_foldl_takeOver ..).trans Array.size_replicate

theorem size_close (slots : Slots) (p fuel : Nat) : (slots.close p fuel).size = slots.size := by
  induction fuel generalizing slots p with
  | zero => rfl
  | succ fuel ih =>
    unfold close
    dsimp only
    split
    · rfl
    · split
      · rfl
      · exact (ih ..).trans (Array.size_setIfInBounds.trans Array.size_setIfInBounds)

theorem size_remove (slots : Slots) (hash : Nat) : (slots.remove hash).size = slots.size := by
  unfold remove
  split
  · rfl
  · exact (size_close ..).trans Array.size_setIfInBounds

end Slots

/-! ## Alarms -/

/-- What an index knows about the rows in it. -/
inductive Danger where
  /-- No row was found too long. -/
  | green
  /-- The last insertion found one. -/
  | yellow
  /-- The hashes cannot be foreseen any more, so no one knows where a name stands. -/
  | red
  deriving DecidableEq

structure Index where
  slots : Slots := #[]
  danger : Danger := .green
  deriving DecidableEq

namespace Index

/-- The names that a table takes before it grows. -/
def usable (slots : Nat) : Nat := slots - slots / 4

/-- The distance that raises an alarm. -/
def farDistance : Nat := 512

/-- The number of moved hashes that raises an alarm. -/
def manyMoved : Nat := 128

/-- With twice as many slots, unless that is too many. -/
def grow? (i : Index) : Option Index :=
  if maxSlots < 2 * i.slots.size then none else some { i with slots := i.slots.grow }

/-- With room for one more name than the `count` that there are. An alarm is answered first: by
growing if a fifth of the slots are taken, otherwise by new hashes. -/
def reserve? (i : Index) (count : Nat) : Option Index :=
  match i.danger with
  | .yellow =>
    if i.slots.size ≤ 5 * count then { i with danger := .green }.grow?
    else some { slots := Array.replicate i.slots.size none, danger := .red }
  | .green | .red =>
    if usable i.slots.size ≤ count then
      if count = 0 then some { i with slots := Array.replicate 8 none } else i.grow?
    else some i

/-- With one more hash, where there is room for it. A place that is far away raises an alarm if
another hash has to leave it; if it is `watched`, also if it is empty. -/
def add (i : Index) (hash : Nat) (watched : Bool) : Index :=
  if i.danger = .red then i
  else
    let d := i.slots.entry hash i.slots.size 0
    let (slots, moved) := i.slots.push (i.slots.behind hash d) hash i.slots.size
    let alarmed := (farDistance ≤ d && (watched || moved != 0)) || manyMoved ≤ moved
    { slots, danger := if alarmed then .yellow else i.danger }

/-- Without one of the names with a hash. -/
def remove (i : Index) (hash : Nat) : Index :=
  if i.danger = .red then i else { i with slots := i.slots.remove hash }

/-! ## Sizes -/

/-- An index that may belong to `count` names: it has slots for them, or as many as there can be. -/
structure Holds (i : Index) (count : Nat) : Prop where
  enough : count ≤ usable i.slots.size ∨ i.slots.size = maxSlots
  shape : i.slots.size = 0 ∨ ∃ k ≤ 15, i.slots.size = 1 <<< k
  calm : i.danger = .green ∨ 0 < i.slots.size

theorem holds_empty : ({} : Index).Holds 0 := ⟨.inl (Nat.zero_le _), .inl rfl, .inl rfl⟩

theorem Holds.mono {i : Index} {count fewer : Nat} (holds : i.Holds count)
    (le : fewer ≤ count) : i.Holds fewer :=
  { holds with enough := holds.enough.imp_left (Nat.le_trans le) }

theorem Holds.le_maxSlots {i : Index} {count : Nat} (holds : i.Holds count) :
    i.slots.size ≤ maxSlots := by
  rcases holds.shape with none | ⟨k, le, power⟩
  · rw [none]
    exact Nat.zero_le _
  · rw [power, maxSlots, Nat.one_shiftLeft, Nat.one_shiftLeft]
    exact Nat.pow_le_pow_right (by decide) le

/-- Slots are a power of two, so their number is not between two of these. -/
theorem Holds.le_or_le {i : Index} {count : Nat} (holds : i.Holds count) (k : Nat) :
    i.slots.size ≤ 1 <<< k ∨ 1 <<< (k + 1) ≤ i.slots.size := by
  rcases holds.shape with none | ⟨l, -, power⟩
  · rw [none]
    exact .inl (Nat.zero_le _)
  · rw [power, Nat.one_shiftLeft, Nat.one_shiftLeft, Nat.one_shiftLeft]
    exact (Nat.lt_or_ge k l).symm.imp (Nat.pow_le_pow_right (by decide))
      (Nat.pow_le_pow_right (by decide))

/-- Only with all slots an index cannot grow. -/
theorem Holds.size_eq {i : Index} {count : Nat} (holds : i.Holds count)
    (many : maxSlots < 2 * i.slots.size) : i.slots.size = maxSlots := by
  have most : maxSlots = 32768 := rfl
  have le := holds.le_maxSlots
  rcases holds.le_or_le 14 with few | all
  · have half : 1 <<< 14 = 16384 := rfl
    omega
  · exact Nat.le_antisymm le all

theorem size_add (i : Index) (hash : Nat) (watched : Bool) :
    (i.add hash watched).slots.size = i.slots.size := by
  unfold add
  split
  · rfl
  · exact Slots.size_push ..

theorem size_remove (i : Index) (hash : Nat) : (i.remove hash).slots.size = i.slots.size := by
  unfold remove
  split
  · rfl
  · exact Slots.size_remove ..

theorem danger_remove (i : Index) (hash : Nat) : (i.remove hash).danger = i.danger := by
  unfold remove
  split <;> rfl

/-- An index without room has half of all slots at least. -/
theorem lt_of_reserve?_eq_none {i : Index} {count : Nat} (full : i.reserve? count = none) :
    maxSlots < 2 * i.slots.size := by
  refine Nat.lt_of_not_le fun fits => ?_
  have grows : i.grow? = some { i with slots := i.slots.grow } := if_neg (Nat.not_lt.mpr fits)
  have grows' : Index.grow? { i with danger := .green } =
      some { slots := i.slots.grow, danger := .green } := if_neg (Nat.not_lt.mpr fits)
  unfold reserve? at full
  rw [grows, grows'] at full
  split at full
  · split at full <;> cases full
  · split at full
    · split at full <;> cases full
    · cases full
  · split at full
    · split at full <;> cases full
    · cases full

/-- With room for another name there are twice as many slots, or as many and not all are taken, or
these are the first. -/
theorem size_of_reserve? {i j : Index} {count : Nat} (room : i.reserve? count = some j) :
    (j.slots.size = 2 * i.slots.size ∧ 2 * i.slots.size ≤ maxSlots ∧
      (i.danger = .yellow ∨ count ≠ 0)) ∨
    (j.slots.size = i.slots.size ∧
      (i.danger = .yellow ∧ 5 * count < i.slots.size ∨ count < usable i.slots.size)) ∨
    (count = 0 ∧ j.slots.size = 8) := by
  have grown {k : Index} (grown : k.grow? = some j) :
      j.slots.size = 2 * k.slots.size ∧ 2 * k.slots.size ≤ maxSlots := by
    unfold grow? at grown
    split at grown
    · cases grown
    · next fits =>
      cases grown
      exact ⟨k.slots.size_grow, Nat.le_of_not_lt fits⟩
  unfold reserve? at room
  split at room
  · next yellow =>
    split at room
    · obtain ⟨size, fits⟩ := grown room
      exact .inl ⟨size, fits, .inl yellow⟩
    · next sparse =>
      cases room
      exact .inr (.inl ⟨Array.size_replicate, .inl ⟨yellow, Nat.lt_of_not_le sparse⟩⟩)
  all_goals
    split at room
    · split at room
      · next none =>
        cases room
        exact .inr (.inr ⟨none, rfl⟩)
      · next some' =>
        obtain ⟨size, fits⟩ := grown room
        exact .inl ⟨size, fits, .inr some'⟩
    · next free =>
      cases room
      exact .inr (.inl ⟨rfl, .inr (Nat.lt_of_not_le free)⟩)

/-- An index with room for another name may belong to one name more. -/
theorem Holds.of_reserve? {i j : Index} {count : Nat} (holds : i.Holds count)
    (room : i.reserve? count = some j) : j.Holds (count + 1) ∧ 0 < j.slots.size := by
  have most : maxSlots = 32768 := rfl
  have filled : i.danger = .yellow → 0 < i.slots.size := fun yellow =>
    holds.calm.resolve_left (by rw [yellow]; nofun)
  have enough := holds.enough
  have sizes := size_of_reserve? room
  have enough' : (count + 1 ≤ usable j.slots.size ∨ j.slots.size = maxSlots) ∧
      0 < j.slots.size := by
    unfold usable at *
    rcases sizes with
      ⟨size, fits, yellow | named⟩ | ⟨size, ⟨yellow, sparse⟩ | free⟩ | ⟨none, size⟩
    · have := filled yellow
      omega
    · omega
    · omega
    · omega
    · omega
  refine ⟨⟨enough'.1, ?_, .inr enough'.2⟩, enough'.2⟩
  rcases sizes with ⟨size, fits, -⟩ | ⟨size, -⟩ | ⟨-, size⟩
  · rcases holds.shape with none | ⟨k, le, power⟩
    · exact .inl (by rw [size, none])
    · rw [power, maxSlots, Nat.one_shiftLeft, Nat.one_shiftLeft, Nat.mul_comm, ← Nat.pow_succ,
        Nat.pow_le_pow_iff_right (by decide)] at fits
      exact .inr ⟨k + 1, fits, by rw [size, power, Nat.shiftLeft_succ, Nat.mul_comm]⟩
  · rw [size]
    exact holds.shape
  · exact .inr ⟨3, by decide, size⟩

/-- So may what is left where there is no room. -/
theorem Holds.of_full {i : Index} {count : Nat} (holds : i.Holds count)
    (full : i.reserve? count = none) : i.Holds (count + 1) ∧ 0 < i.slots.size := by
  have many := lt_of_reserve?_eq_none full
  exact ⟨{ holds with enough := .inr (holds.size_eq many) }, by omega⟩

theorem Holds.add {i : Index} {count : Nat} (holds : i.Holds count) (filled : 0 < i.slots.size)
    (hash : Nat) (watched : Bool) : (i.add hash watched).Holds count := by
  have size := i.size_add hash watched
  constructor <;> rw [size]
  · exact holds.enough
  · exact holds.shape
  · exact .inr filled

theorem Holds.remove {i : Index} {count : Nat} (holds : i.Holds count) (hash : Nat) :
    (i.remove hash).Holds count := by
  have size := i.size_remove hash
  constructor <;> rw [size]
  · exact holds.enough
  · exact holds.shape
  · rw [danger_remove]
    exact holds.calm

/-! ## Room -/

/-- An index without room has all slots, and either an alarm is answered by growing or three quarters
of the slots are taken. -/
theorem Holds.of_reserve?_eq_none {i : Index} {count : Nat} (holds : i.Holds count)
    (full : i.reserve? count = none) :
    i.slots.size = maxSlots ∧
      (i.danger = .yellow ∧ maxSlots ≤ 5 * count ∨ usable maxSlots ≤ count) := by
  have size := holds.size_eq (lt_of_reserve?_eq_none full)
  refine ⟨size, ?_⟩
  unfold reserve? at full
  rw [size] at full
  split at full
  · next yellow =>
    split at full
    · next many => exact .inl ⟨yellow, many⟩
    · cases full
  all_goals
    split at full
    · next many => exact .inr many
    · cases full

/-- Below 6,554 names there is always room: that is a fifth of all slots. -/
theorem Holds.le_of_reserve?_eq_none {i : Index} {count : Nat} (holds : i.Holds count)
    (full : i.reserve? count = none) : 6554 ≤ count := by
  have most : maxSlots = 32768 := rfl
  obtain ⟨-, ⟨-, many⟩ | many⟩ := holds.of_reserve?_eq_none full
  · omega
  · unfold usable at many
    omega

/-- From 24,576 names on there is never room: that is three quarters of all slots. -/
theorem Holds.reserve?_eq_none {i : Index} {count : Nat} (holds : i.Holds count)
    (many : 24576 ≤ count) : i.reserve? count = none := by
  have most : maxSlots = 32768 := rfl
  have enough := holds.enough
  have size : i.slots.size = maxSlots := by
    refine holds.size_eq ?_
    unfold usable at enough
    omega
  have stuck (danger : Danger) : Index.grow? { i with danger } = none :=
    if_pos (by dsimp only; omega)
  have all : usable i.slots.size ≤ count := by
    unfold usable
    omega
  unfold reserve?
  split
  · rw [if_pos (by omega), stuck]
  all_goals rw [if_pos all, if_neg (by omega), stuck i.danger]

end Index

end Courier.Http
