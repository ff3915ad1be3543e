/-!
# Numbers

Numbers without a sign in any base up to sixteen, and numbers of 64 bits in decimal digits, after an
optional plus sign. The first character of a decimal number that goes wrong decides the fault. Of
real numbers only the form is looked at.
-/

namespace Courier.Text

/-- The value of a digit in a base. -/
def digit? (base : Nat) (c : Char) : Option Nat :=
  let value :=
    if c.isDigit then c.toNat - '0'.toNat
    else if 'a' ≤ c ∧ c ≤ 'f' then c.toNat - 'a'.toNat + 10
    else if 'A' ≤ c ∧ c ≤ 'F' then c.toNat - 'A'.toNat + 10
    else base
  if value < base then some value else none

/-- The number that the digits spell; there has to be one. -/
def number? (base : Nat) (cs : List Char) : Option Nat :=
  if cs = [] then none
  else cs.foldlM (fun n c => (digit? base c).map (base * n + ·)) 0

end Courier.Text

namespace Courier.Text.Decimal

inductive Fault where
  | empty | invalidDigit | tooLarge
  deriving DecidableEq

def Fault.message : Fault → String
  | .empty => "cannot parse integer from empty string"
  | .invalidDigit => "invalid digit found in string"
  | .tooLarge => "number too large to fit in target type"

/-- The greatest number of 64 bits. -/
def maxNumber : Nat := 0xFFFFFFFFFFFFFFFF

/-- Reads on in a number whose digits so far spell `n`. -/
def readFrom (n : Nat) : List Char → Except Fault Nat
  | [] => .ok n
  | c :: cs =>
    if c.isDigit then
      let next := 10 * n + (c.toNat - '0'.toNat)
      if maxNumber < next then .error .tooLarge else readFrom next cs
    else .error .invalidDigit

/-- Reads the digits of a number; there has to be one. -/
def readDigits : List Char → Except Fault Nat
  | [] => .error .invalidDigit
  | cs => readFrom 0 cs

/-- The number that a text spells. -/
def read (s : String) : Except Fault Nat :=
  match s.toList with
  | [] => .error .empty
  | '+' :: cs => readDigits cs
  | cs => readDigits cs

/-! ## Real numbers -/

/-- Whether the characters are an exponent, or nothing. -/
def isExponent : List Char → Bool
  | [] => true
  | e :: cs =>
    let digits := match cs with
      | '+' :: digits | '-' :: digits => digits
      | digits => digits
    (e == 'e' || e == 'E') && digits != [] && digits.all Char.isDigit

/-- Whether the characters spell a real number without a sign, infinite and undefined ones
included. -/
def isReal (cs : List Char) : Bool :=
  let whole := cs.takeWhile Char.isDigit
  let rest := cs.dropWhile Char.isDigit
  let (places, exponent) := match rest with
    | '.' :: rest => (rest.takeWhile Char.isDigit, rest.dropWhile Char.isDigit)
    | rest => ([], rest)
  (whole ++ places != [] && isExponent exponent)
    || ["inf", "infinity", "nan"].contains (String.ofList (cs.map Char.toLower))

end Courier.Text.Decimal
