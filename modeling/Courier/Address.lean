import Courier.Text.Numbers

/-!
# Network addresses

An address of a machine has 32 bits or 128. `Address.ofHost?` finds the address of a host that is
written as one, and `Address.text` writes it in the usual form: four bytes between points, or
groups of 16 bits between colons, where the longest run of zeros is left out.
-/

namespace Courier

inductive Address where
  | v4 (bits : Nat)
  /-- Eight groups of 16 bits, and the number of the network that the address is meant in, or
  zero. -/
  | v6 (groups : List Nat) (zone : Nat)
  deriving DecidableEq

namespace Address

def loopback : Address := .v4 0x7F000001

/-! ## Short addresses -/

/-- A number in decimal, in base 8 behind a zero, or in base 16 behind a zero and an `x`. -/
def number? : List Char → Option Nat
  | '0' :: 'x' :: cs | '0' :: 'X' :: cs => Text.number? 16 cs
  | '0' :: c :: cs => Text.number? 8 (c :: cs)
  | cs => Text.number? 10 cs

/-- The factor that moves a number past the last `n` bytes, for up to four. -/
def shift (n : Nat) : Nat := [1, 0x100, 0x10000, 0x1000000, 0x100000000].getD n 0

/-- The bits that one to four numbers between points stand for. The last one fills the bytes that
the others leave. -/
def bits? (s : String) : Option Nat :=
  ((s.splitOn ".").mapM (number? ·.toList)).bind fun numbers =>
    let front := numbers.dropLast
    let room := shift (4 - front.length)
    let last := numbers.getLast?.getD 0
    if front.length < 4 ∧ front.all (· < 0x100) ∧ last < room then
      some (front.foldl (fun n byte => 0x100 * n + byte) 0 * room + last)
    else none

/-- The bits that exactly four bytes in decimal stand for, without zeros in front. -/
def strictBits? (s : String) : Option Nat :=
  let isByte (part : String) : Bool :=
    (Text.number? 10 part.toList).any fun n => n < 0x100 && toString n == part
  let parts := s.splitOn "."
  if parts.length = 4 ∧ parts.all isByte then bits? s else none

/-- Four bytes between points. -/
def pointed (bits : Nat) : String :=
  ".".intercalate ([bits / shift 3, bits / shift 2, bits / shift 1, bits].map fun n =>
    toString (n % 0x100))

/-! ## Long addresses -/

/-- A group of 16 bits. -/
def group? (s : String) : Option Nat := if s.length ≤ 4 then Text.number? 16 s.toList else none

/-- Groups between colons. In place of the last two there may be four bytes, if `pointed`. -/
def groups? (pointed : Bool) (s : String) : Option (List Nat) :=
  if s = "" then some []
  else
    let parts := s.splitOn ":"
    let last := parts.getLast?.getD ""
    let tail : Option (List Nat) :=
      match if pointed then strictBits? last else none with
      | some bits => some [bits / shift 2, bits % shift 2]
      | none => (group? last).map ([·])
    match parts.dropLast.mapM group?, tail with
    | some front, some tail => some (front ++ tail)
    | _, _ => none

/-- The eight groups of an address. Two colons stand for one zero or more. -/
def allGroups? (s : String) : Option (List Nat) :=
  match s.splitOn "::" with
  | [whole] => (groups? true whole).bind fun gs => if gs.length = 8 then some gs else none
  | [front, back] =>
    match groups? false front, groups? true back with
    | some fs, some bs =>
      let known := fs.length + bs.length
      if known < 8 then some (fs ++ List.replicate (8 - known) 0 ++ bs) else none
    | _, _ => none
  | _ => none

/-- Whether an address is meant for machines that are linked directly. -/
def isLinkLocal (groups : List Nat) : Bool :=
  let first := groups.headD 0
  (0xFE80 ≤ first && first < 0xFEC0)
    || (0xFF00 ≤ first && (first % 0x10 == 1 || first % 0x10 == 2))

/-- Whether an address is that of a group of machines. -/
def isMulticast (groups : List Nat) : Bool := 0xFF00 ≤ groups.headD 0

/-- The bits of the short address that a long one stands for. -/
def mapped? : List Nat → Option Nat
  | [0, 0, 0, 0, 0, 0xFFFF, high, low] => some (high * shift 2 + low)
  | _ => none

/-- The number of a network, or for a linked machine the loopback by its name. -/
def zone? (groups : List Nat) (s : String) : Option Nat :=
  if s = "lo" ∧ isLinkLocal groups then some 1
  else (Text.number? 10 s.toList).bind fun n => if n < shift 4 then some n else none

/-- A long address, with the number of its network behind a percent sign. -/
def long? (s : String) : Option Address :=
  let address := s.toList.takeWhile (· != '%')
  (allGroups? (String.ofList address)).bind fun groups =>
    match s.toList.drop address.length with
    | [] => some (.v6 groups 0)
    | _ :: zone => (zone? groups (String.ofList zone)).map fun n => .v6 groups n

/-- The first of the longest runs of zeros: where it starts, and how long it is. -/
def zeros (groups : List Nat) : Nat × Nat :=
  (List.range groups.length).foldl
    (fun best start =>
      let size := ((groups.drop start).takeWhile (· == 0)).length
      if best.2 < size then (start, size) else best)
    (0, 0)

/-- Groups between colons. -/
def colons (groups : List Nat) : String :=
  ":".intercalate (groups.map fun n => String.ofList (Nat.toDigits 16 n))

/-- The shortest form of a long address. A single zero is not left out. -/
def shortest (groups : List Nat) : String :=
  match mapped? groups with
  | some bits => "::ffff:" ++ pointed bits
  | none =>
    let (start, size) := zeros groups
    if size ≤ 1 then colons groups
    else colons (groups.take start) ++ "::" ++ colons (groups.drop (start + size))

/-! ## Hosts -/

/-- The address of a host that is written as one. The local host has one that is known to all. -/
def ofHost? (host : String) : Option Address :=
  if host.map Char.toLower = "localhost" then some loopback
  else
    match bits? host with
    | some bits => some (.v4 bits)
    | none => long? host

/-- Whether a host is an address in one of the usual forms. Any other host is looked up. -/
def isPlain (host : String) : Bool := (strictBits? host).isSome || (allGroups? host).isSome

/-- The text of an address with the number of a service. -/
def text (service : Nat) : Address → String
  | .v4 bits => pointed bits ++ ":" ++ toString service
  | .v6 groups zone =>
    "[" ++ shortest groups ++ (if zone = 0 then "" else "%" ++ toString zone) ++ "]:"
      ++ toString service

end Address

end Courier
