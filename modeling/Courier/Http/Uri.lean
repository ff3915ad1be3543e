import Courier.Address
import Courier.Text.Numbers

/-!
# Addresses

`Uri.parse` reads the address of a server or the target of a request: a path, an authority alone,
or a scheme with an authority and a path. A fragment is dropped. An authority is a host, which may
have a user in front and the number of a service behind it.
-/

namespace Courier.Http

structure Uri where
  scheme : Option String := none
  authority : Option String := none
  /-- Empty for an authority alone. -/
  path : String := ""
  query : Option String := none
  deriving DecidableEq

namespace Uri

inductive Fault where
  | invalidCharacter | invalidAuthority | invalidFormat | tooLong | empty | schemeTooLong
  deriving DecidableEq

def Fault.message : Fault → String
  | .invalidCharacter => "invalid uri character"
  | .invalidAuthority => "invalid authority"
  | .invalidFormat => "invalid format"
  | .tooLong => "uri too long"
  | .empty => "empty string"
  | .schemeTooLong => "scheme too long"

/-- The bytes that an address may have. -/
def maxLength : Nat := 65534

def maxSchemeLength : Nat := 64

/-- The colons that an authority may have anywhere. -/
def maxColons : Nat := 8

/-! ## Characters -/

def isSchemeChar (c : Char) : Bool := c.isAlphanum || "+-.~".toList.contains c

def isAuthorityChar (c : Char) : Bool :=
  c.isAlphanum || "!#$&'()*+,-./:;=?@[]_~".toList.contains c

/-- The characters of a path. A query or a fragment ends it. -/
def isPathChar (c : Char) : Bool :=
  (0x21 ≤ c.toNat && c.toNat < 0x7F && !"#<>?`".toList.contains c) || 0x80 ≤ c.toNat

/-- The characters of a query. A fragment ends it. -/
def isQueryChar (c : Char) : Bool :=
  (0x21 ≤ c.toNat && c.toNat < 0x7F && !"\"#<>".toList.contains c) || 0x80 ≤ c.toNat

/-! ## Parts -/

/-- A path and a query from the front of the characters. -/
def pathAndQuery (cs : List Char) : Except Fault (String × Option String) :=
  let path := cs.takeWhile isPathChar
  let found := if path = [] then "/" else String.ofList path
  match cs.dropWhile isPathChar with
  | [] => .ok (found, none)
  | '#' :: _ => .ok (found, none)
  | '?' :: rest =>
    let query := String.ofList (rest.takeWhile isQueryChar)
    match rest.dropWhile isQueryChar with
    | [] => .ok (found, some query)
    | '#' :: _ => .ok (found, some query)
    | _ => .error .invalidCharacter
  | _ => .error .invalidCharacter

/-- What has been seen of an authority. -/
structure AuthorityScan where
  /-- The colons since the last `@` or the end of a bracket. -/
  colons : Nat := 0
  opened : Bool := false
  closed : Bool := false
  /-- A percent sign since the last `@` or the end of a bracket. -/
  percent : Bool := false
  /-- The last character is an `@`. -/
  atEnd : Bool := false

namespace AuthorityScan

/-- The scan after one more character. -/
def step (scan : AuthorityScan) (c : Char) : Except Fault AuthorityScan :=
  let scan := { scan with atEnd := c == '@' }
  match c with
  | ':' =>
    if maxColons ≤ scan.colons then .error .invalidAuthority
    else .ok { scan with colons := scan.colons + 1 }
  | '[' =>
    if scan.percent || scan.opened then .error .invalidAuthority
    else .ok { scan with opened := true }
  | ']' =>
    if !scan.opened || scan.closed then .error .invalidAuthority
    else .ok { scan with closed := true, colons := 0, percent := false }
  | '@' => .ok { scan with colons := 0, percent := false }
  | '%' => .ok { scan with percent := true }
  | c => if isAuthorityChar c then .ok scan else .error .invalidCharacter

/-- Whether an authority may end here. -/
def complete (scan : AuthorityScan) : Bool :=
  scan.opened == scan.closed && scan.colons ≤ 1 && !scan.atEnd && !scan.percent

end AuthorityScan

def endsAuthority (c : Char) : Bool := c == '/' || c == '?' || c == '#'

/-- An authority from the front of the characters, and what follows it. -/
def authorityFrom (cs : List Char) : Except Fault (String × List Char) :=
  if cs = [] then .error .empty
  else
    let authority := cs.takeWhile (!endsAuthority ·)
    match authority.foldlM AuthorityScan.step {} with
    | .error fault => .error fault
    | .ok scan =>
      if scan.complete then .ok (String.ofList authority, cs.dropWhile (!endsAuthority ·))
      else .error .invalidAuthority

/-- A scheme from the front of the characters, and what follows its two slashes. -/
def schemeFrom (cs : List Char) : Except Fault (Option (String × List Char)) :=
  let scheme := cs.takeWhile isSchemeChar
  match cs.dropWhile isSchemeChar with
  | ':' :: '/' :: '/' :: rest =>
    if cs.length ≤ 3 then .ok none
    else if maxSchemeLength < scheme.length then .error .schemeTooLong
    else .ok (some (String.ofList scheme, rest))
  | _ => .ok none

/-- An authority alone, or a scheme with an authority and a path. -/
def full (cs : List Char) : Except Fault Uri :=
  match schemeFrom cs with
  | .error fault => .error fault
  | .ok none =>
    match authorityFrom cs with
    | .error fault => .error fault
    | .ok (authority, []) => .ok { authority := some authority }
    | .ok (_, _ :: _) => .error .invalidFormat
  | .ok (some (scheme, rest)) =>
    match authorityFrom rest with
    | .error fault => .error fault
    | .ok (authority, rest) =>
      if authority = "" then .error .invalidFormat
      else
        match pathAndQuery rest with
        | .error fault => .error fault
        | .ok (path, query) =>
          .ok { scheme := some scheme, authority := some authority, path, query }

/-- One character: a path, or an authority. -/
def single (c : Char) : Except Fault Uri :=
  if c = '/' || c = '*' then .ok { path := String.singleton c }
  else
    match authorityFrom [c] with
    | .error fault => .error fault
    | .ok (authority, []) => .ok { authority := some authority }
    | .ok (_, _ :: _) => .error .invalidCharacter

/-- The address that a text spells. -/
def parse (s : String) : Except Fault Uri :=
  if maxLength < s.utf8ByteSize then .error .tooLong
  else
    match s.toList with
    | [] => .error .empty
    | [c] => single c
    | '/' :: rest =>
      match pathAndQuery ('/' :: rest) with
      | .error fault => .error fault
      | .ok (path, query) => .ok { path, query }
    | cs => full cs

/-! ## Hosts and services -/

/-- The name of a scheme. The schemes of HTTP are written in lower case. -/
def schemeName (scheme : String) : String :=
  let lower := scheme.map Char.toLower
  if lower = "http" ∨ lower = "https" then lower else scheme

/-- The characters behind the last one that is equal to `mark`, or all if there is none. -/
def behindLast (mark : Char) (cs : List Char) : List Char :=
  (cs.reverse.takeWhile (· != mark)).reverse

/-- The host of an authority: without a user in front, and without a number behind. Brackets belong
to it. -/
def host? (u : Uri) : Option String :=
  u.authority.map fun authority =>
    match behindLast '@' authority.toList with
    | '[' :: cs => String.ofList ('[' :: cs.takeWhile (· != ']') ++ [']'])
    | cs => String.ofList (cs.takeWhile (· != ':'))

def maxService : Nat := 65535

/-- The service of an authority: the number behind its last colon. -/
def service? (u : Uri) : Option Nat :=
  u.authority.bind fun authority =>
    if authority.toList.contains ':' then
      match Text.Decimal.read (String.ofList (behindLast ':' authority.toList)) with
      | .ok n => if n ≤ maxService then some n else none
      | .error _ => none
    else none

/-- The service that a scheme stands for. -/
def standardService (scheme : Option String) : Nat :=
  if scheme.map schemeName = some "https" then 443 else 80

/-- The number of the service, which is the standard one if there is none. -/
def serviceOrStandard (u : Uri) : Nat := u.service?.getD (standardService u.scheme)

/-- The host without the brackets around it. -/
def bareHost? (u : Uri) : Option String :=
  u.host?.map fun host =>
    let front := host.toList.dropWhile (· == '[')
    String.ofList (front.reverse.dropWhile (· == ']')).reverse

/-- The address of the host, unless it is a name that has to be asked for. -/
def address? (u : Uri) : Option Address := u.bareHost?.bind Address.ofHost?

end Uri

end Courier.Http
