/-! # Numeric hosts

When a host name is an IPv4 address, and whether the text of an address is one. The parts of an IPv4
address may be octal or hexadecimal and the last one fills the places of those left out. An IPv6
address has eight groups, or fewer around one `::`, and may end in a plain IPv4 address.
-/
namespace BlobFiles.Endpoint

def isHexDigit (c : Char) : Bool :=
  c.isDigit || ('a' ≤ c && c ≤ 'f') || ('A' ≤ c && c ≤ 'F')

def isOctalDigit (c : Char) : Bool := '0' ≤ c && c ≤ '7'

def hexDigitValue (c : Char) : Nat :=
  if c.isDigit then c.toNat - '0'.toNat else c.toLower.toNat - 'a'.toNat + 10

def valueOf (base : Nat) (digits : List Char) : Nat :=
  digits.foldl (fun n d => base * n + hexDigitValue d) 0

/-- One part of an IPv4 address: decimal, octal behind `0`, hexadecimal behind `0x`. -/
def ipv4Part? (part : List Char) : Option Nat :=
  match part with
  | [] => none
  | '0' :: 'x' :: digits | '0' :: 'X' :: digits =>
    if digits.all isHexDigit then some (valueOf 16 digits) else none
  | '0' :: d :: digits =>
    if (d :: digits).all isOctalDigit then some (valueOf 8 (d :: digits)) else none
  | digits => if digits.all Char.isDigit then some (valueOf 10 digits) else none

/-- The labels of a host name; a single dot at the end does not count. -/
def labels (host : List Char) : List (List Char) :=
  let all := host.splitOn '.'
  if all.getLast? = some [] && 1 < all.length then all.dropLast else all

/-- Whether the last label is a number, which makes the whole host an IPv4 address. -/
def endsInNumber (host : List Char) : Bool :=
  match (labels host).getLast? with
  | none => false
  | some last => (!last.isEmpty && last.all Char.isDigit) || (ipv4Part? last).isSome

def isIpv4 (host : List Char) : Bool :=
  let parts := labels host
  match parts.mapM ipv4Part? with
  | none => false
  | some numbers =>
    parts.length ≤ 4 && numbers.dropLast.all (· ≤ 255) &&
      match numbers.getLast? with
      | none => false
      | some last => last < 1 <<< (8 * (5 - parts.length))

/-- A number from 0 to 255 without zeros in front. -/
def isPlainByte (part : List Char) : Bool :=
  !part.isEmpty && part.all Char.isDigit && (part = ['0'] || part.head? ≠ some '0') &&
    valueOf 10 part ≤ 255

def isPlainIpv4 (text : List Char) : Bool :=
  let parts := text.splitOn '.'
  parts.length = 4 && parts.all isPlainByte

def isIpv6Group (group : List Char) : Bool :=
  1 ≤ group.length && group.length ≤ 4 && group.all isHexDigit

/-- Takes one of two empty groups in front away; a single one is a fault. -/
def openEnd? : List (List Char) → Option (List (List Char))
  | [] :: [] :: groups => some ([] :: groups)
  | [] :: _ => none
  | groups => some groups

def isIpv6 (text : List Char) : Bool :=
  match (openEnd? (text.splitOn ':')).bind fun groups => openEnd? groups.reverse with
  | none => false
  | some reversed =>
    let gaps := reversed.countP (·.isEmpty)
    let wide := (reversed.head?.map isPlainIpv4).getD false
    let plain := (if wide then reversed.tail else reversed).filter (!·.isEmpty)
    let places := plain.length + if wide then 2 else 0
    plain.all isIpv6Group && ((gaps = 0 && places = 8) || (gaps = 1 && places ≤ 7))

end BlobFiles.Endpoint
