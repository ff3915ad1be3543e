import Courier.Bytes

/-!
# Base64

Three bytes are written as four symbols of six bits. Writing leaves padding out; reading accepts
it, whole or in part, and refuses symbols whose last bits would be lost.
-/

namespace Courier.Text.Base64

/-- Why symbols cannot be read, and where. -/
inductive Fault where
  | invalidByte (index : Nat) (byte : UInt8)
  | invalidLength (length : Nat)
  /-- The last symbol holds bits that belong to no byte. -/
  | invalidLastSymbol (index : Nat) (byte : UInt8)
  deriving DecidableEq

def Fault.describe : Fault → String
  | .invalidByte index byte =>
    "InvalidByte(" ++ toString index ++ ", " ++ toString byte.toNat ++ ")"
  | .invalidLength length => "InvalidLength(" ++ toString length ++ ")"
  | .invalidLastSymbol index byte =>
    "InvalidLastSymbol(" ++ toString index ++ ", " ++ toString byte.toNat ++ ")"

/-! ## Symbols -/

/-- The six bits of a symbol. -/
def sextet? (b : UInt8) : Option Nat :=
  let n := b.toNat
  if 0x41 ≤ n && n ≤ 0x5A then some (n - 0x41)
  else if 0x61 ≤ n && n ≤ 0x7A then some (n - 0x61 + 26)
  else if 0x30 ≤ n && n ≤ 0x39 then some (n - 0x30 + 52)
  else if n == 0x2B then some 62
  else if n == 0x2F then some 63
  else none

def symbol (n : Nat) : UInt8 :=
  if n < 26 then UInt8.ofNat (n + 0x41)
  else if n < 52 then UInt8.ofNat (n - 26 + 0x61)
  else if n < 62 then UInt8.ofNat (n - 52 + 0x30)
  else if n = 62 then 0x2B
  else 0x2F

/-! ## Writing -/

def encode : Bytes → Bytes
  | [] => []
  | [a] => [symbol (a.toNat / 4), symbol (a.toNat % 4 * 16)]
  | [a, b] =>
    [symbol (a.toNat / 4), symbol (a.toNat % 4 * 16 + b.toNat / 16), symbol (b.toNat % 16 * 4)]
  | a :: b :: c :: bs =>
    symbol (a.toNat / 4) :: symbol (a.toNat % 4 * 16 + b.toNat / 16)
      :: symbol (b.toNat % 16 * 4 + c.toNat / 64) :: symbol (c.toNat % 64) :: encode bs

/-! ## Reading -/

/-- The bytes that groups of six bits spell. Two of a group make one byte, three make two. -/
def pack : List Nat → Bytes
  | a :: b :: c :: d :: ns =>
    UInt8.ofNat (a * 4 + b / 16) :: UInt8.ofNat (b % 16 * 16 + c / 4)
      :: UInt8.ofNat (c % 4 * 64 + d) :: pack ns
  | [a, b, c] => [UInt8.ofNat (a * 4 + b / 16), UInt8.ofNat (b % 16 * 16 + c / 4)]
  | [a, b] => [UInt8.ofNat (a * 4 + b / 16)]
  | _ => []

/-- The bits of the last group that belong to no byte. -/
def looseBits : List Nat → Nat
  | [_, b] => b % 16
  | [_, _, c] => c % 4
  | _ => 0

/-- Reads symbols from position `index` on; padding is no symbol. -/
def symbols (index : Nat) : Bytes → Except Fault (List Nat)
  | [] => .ok []
  | b :: bs =>
    match sextet? b with
    | none => .error (.invalidByte index b)
    | some n =>
      match symbols (index + 1) bs with
      | .error e => .error e
      | .ok ns => .ok (n :: ns)

/-- Reads the last group, which starts at position `start`: symbols, then padding from the third
place on. A symbol after padding counts against the padding. -/
def lastGroup (start offset : Nat) : Bytes → Except Fault (List Nat)
  | [] => .ok []
  | b :: bs =>
    if b = 0x3D then
      if offset < 2 then .error (.invalidByte (start + offset) b)
      else if bs.all (· == 0x3D) then .ok []
      else .error (.invalidByte (start + offset) b)
    else
      match sextet? b with
      | none => .error (.invalidByte (start + offset) b)
      | some n =>
        match lastGroup start (offset + 1) bs with
        | .error e => .error e
        | .ok ns => .ok (n :: ns)

/-- Where the last group starts: it is never empty, so that it holds the padding. -/
def lastStart (length : Nat) : Nat := (length - 1) / 4 * 4

/-- A stray byte behind whole groups, such as a line end, is told before all else. -/
def strayByte? (bs : Bytes) : Option Fault :=
  match bs.getLast? with
  | some b =>
    if bs.length % 4 = 1 ∧ b ≠ 0x3D ∧ sextet? b = none then
      some (.invalidByte (bs.length - 1) b)
    else none
  | none => none

/-- The bytes that the symbols spell. -/
def decode (bs : Bytes) : Except Fault Bytes :=
  match strayByte? bs with
  | some e => .error e
  | none => do
    let start := lastStart bs.length
    let groups ← symbols 0 (bs.take start)
    let last ← lastGroup start 0 (bs.drop start)
    if bs ≠ [] ∧ last.length < 2 then .error (.invalidLength (start + last.length))
    else if looseBits last ≠ 0 then
      .error (.invalidLastSymbol (start + last.length - 1)
        ((bs.drop (start + last.length - 1)).headD 0))
    else .ok (pack (groups ++ last))

end Courier.Text.Base64
