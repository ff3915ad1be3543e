import Courier.Wire.Skip

/-!
# Records

A `Record` is a type whose values are written as a sequence of fields: `encode` writes, `size`
counts the bytes without writing them, and `field` reads one field into a value. Reading is
merging: a text replaces the one before it, a nested record is merged into the one before it, and
an undeclared field is passed over.
-/

namespace Courier.Wire

/-- The nesting that a message may have. -/
def depthLimit : Nat := 100

/-- A type that is written field by field. -/
class Record (α : Type) where
  empty : α
  encode : α → Bytes
  size : α → Nat
  /-- Reads the value of the field whose key has just been read; `budget` is the nesting still
  allowed. -/
  field : (budget : Nat) → Key → α → Reader α

/-! ## Writing fields -/

/-- A text is a length and its bytes. The empty text is not written. -/
def encodeText (number : Nat) (s : String) : Bytes :=
  if s = "" then []
  else Key.encode ⟨number, .lengthDelimited⟩ ++ Varint.encode (utf8 s).length ++ utf8 s

def sizeText (number : Nat) (s : String) : Nat :=
  if s = "" then 0
  else
    Varint.width (8 * number + 2) + Varint.width s.utf8ByteSize + s.utf8ByteSize

/-- A nested record is a length and its fields; it is written when it is set, even when it is
empty. The length is the size that is counted beforehand. -/
def encodeNested {α : Type} [Record α] (number : Nat) : Option α → Bytes
  | none => []
  | some a =>
    Key.encode ⟨number, .lengthDelimited⟩ ++ Varint.encode (Record.size a) ++ Record.encode a

def sizeNested {α : Type} [Record α] (number : Nat) : Option α → Nat
  | none => 0
  | some a =>
    Varint.width (8 * number + 2) + Varint.width (Record.size a) + Record.size a

/-! ## Reading fields -/

/-- Reads one field after the other into `a` while more than `limit` bytes remain. `step` reads
the value of a field. -/
def fields {α : Type} (step : Key → α → Reader α) (limit : Nat) (a : α) (i : Input) :
    Except Fault (α × Input) :=
  if limit < i.size then
    match _ : Key.read.run i with
    | .error e => .error e
    | .ok (key, rest) =>
      match _ : (step key a).run rest with
      | .error e => .error e
      | .ok (a', rest') => fields step limit a' rest'
  else .ok (a, i)
termination_by i.size
decreasing_by
  rename_i first next
  exact Nat.lt_of_le_of_lt ((step key a).size_le next) (Key.size_lt_of_read first)

theorem size_le_of_fields {α : Type} {step : Key → α → Reader α} {limit : Nat} {a b : α}
    {i rest : Input} (h : fields step limit a i = .ok (b, rest)) : rest.size ≤ i.size := by
  fun_induction fields step limit a i with
  | case1 => cases h
  | case2 => cases h
  | case3 a i _ key _ first _ _ next ih =>
    exact Nat.le_trans (ih h)
      (Nat.le_trans ((step key a).size_le next) (Nat.le_of_lt (Key.size_lt_of_read first)))
  | case4 => cases h; exact Nat.le_refl _

/-- Reads the fields of a nested record into `a`: a length, then fields while the length is not
used up. The fields have to end exactly where the length says. -/
def delimited {α : Type} (step : Key → α → Reader α) (a : α) : Reader α := do
  let n ← Varint.read
  { run := fun i =>
      if n ≤ i.size then
        match fields step (i.size - n) a i with
        | .error e => .error e
        | .ok (b, rest) =>
          if rest.size = i.size - n then .ok (b, rest)
          else .error { cause := .lengthExceeded }
      else .error { cause := .bufferUnderflow }
    size_le := by
      intro i b rest h
      split at h
      · split at h
        · cases h
        · next _ _ read =>
          split at h
          · cases h
            exact size_le_of_fields read
          · cases h
      · cases h }

/-- Reads a text field. -/
def textField (type : WireType) : Reader String :=
  if type = .lengthDelimited then do
    let n ← Varint.read
    let bs ← Reader.take n
    match bs.text? with
    | some s => return s
    | none => Reader.fail .invalidText
  else .fail (.unexpectedWireType type)

/-- Merges a nested record into `a`. -/
def mergeNested {α : Type} [Record α] (budget : Nat) (type : WireType) (a : α) : Reader α :=
  if type = .lengthDelimited then
    match budget with
    | 0 => .fail .recursionLimit
    | inner + 1 => delimited (Record.field inner) a
  else .fail (.unexpectedWireType type)

/-- Reads a nested field that may be set already. -/
def nestedField {α : Type} [Record α] (budget : Nat) (type : WireType) (old : Option α) :
    Reader α :=
  mergeNested budget type (old.getD Record.empty)

/-- Passes over an undeclared field. -/
def unknownField {α : Type} (budget : Nat) (key : Key) (a : α) : Reader α := do
  skip budget key
  return a

/-! ## Whole messages -/

namespace Record

variable {α : Type} [Record α]

/-- Merges all of `bs` into `a`. -/
def merge (a : α) (bs : Bytes) : Except Fault α :=
  match fields (field depthLimit) 0 a (.ofBytes bs) with
  | .error e => .error e
  | .ok (b, _) => .ok b

/-- The record that `bs` spells. -/
def decode (bs : Bytes) : Except Fault α := merge empty bs

/-- Merges a record with its length in front into `a`, and hands back what follows it. -/
def mergeDelimited (a : α) (bs : Bytes) : Except Fault (α × Bytes) :=
  (mergeNested depthLimit .lengthDelimited a).read bs

def decodeDelimited (bs : Bytes) : Except Fault (α × Bytes) := mergeDelimited empty bs

/-- The record with its length in front. -/
def encodeDelimited (a : α) : Bytes := Varint.encode (size a) ++ encode a

end Record

end Courier.Wire
