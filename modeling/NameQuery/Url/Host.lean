import NameQuery.Url.Percent

/-!
# Hosts

The host of a URL is a name or the address of a machine, and what is decided here is which texts are
hosts at all. Between brackets stands an address of eight groups of hexadecimal digits, with two
colons once for groups that are left out and with a dotted address for the last two (`isIpv6`). A
host of a special scheme is read after percent decoding; it is a dotted address of up to four numbers
if its last part is a number (`endsInNumber`, `isIpv4`), the numbers decimal, octal after a zero, or
hexadecimal after `0x`. In other schemes a host is any text without the characters that have a
meaning of their own.
-/

set_option autoImplicit false

namespace NameQuery.Url

/-- What keeps a text from being a URL. -/
inductive Defect
  /-- There is no scheme. -/
  | relative
  | emptyHost
  /-- A character that no host has, in a scheme that is not special. -/
  | hostCharacter
  /-- A name that no host of a special scheme has. -/
  | domain
  | ipv4
  | ipv6
  | portNumber
deriving DecidableEq

def Defect.message : Defect → String
  | .relative => "relative URL without a base"
  | .emptyHost => "empty host"
  | .hostCharacter => "invalid domain character"
  | .domain => "invalid international domain name"
  | .ipv4 => "invalid IPv4 address"
  | .ipv6 => "invalid IPv6 address"
  | .portNumber => "invalid port number"

namespace Host

/-! ## Addresses between brackets -/

/-- One to four hexadecimal digits. -/
def isGroup (cs : List Char) : Bool :=
  1 ≤ cs.length && cs.length ≤ 4 && cs.all (isDigitIn 16)

/-- A number below 256 without zeros in front. -/
def isByte (cs : List Char) : Bool :=
  (cs = ['0'] || cs.head? != some '0') && (naturalNumber? cs).any (· < 256)

/-- Four numbers below 256 between dots. -/
def isDotted (cs : List Char) : Bool :=
  let parts := Text.pieces '.' cs
  parts.length = 4 && parts.all isByte

/-- The number of groups between colons, where they are groups. A dotted address, which counts for
two, may stand last at the end of an address. -/
def groups? (atEnd : Bool) (cs : List Char) : Option Nat :=
  if cs.isEmpty then some 0
  else
    let parts := Text.pieces ':' cs
    let last := parts.getLastD []
    if !parts.dropLast.all isGroup then none
    else if isGroup last then some parts.length
    else if atEnd && isDotted last then some (parts.length + 1)
    else none

/-- An address of eight groups, or of at most seven where some are left out. -/
def isIpv6 (cs : List Char) : Bool :=
  match Text.piecesAt "::".toList cs with
  | [whole] => groups? true whole = some 8
  | [before, after] =>
    match groups? false before, groups? true after with
    | some m, some n => m + n ≤ 7
    | _, _ => false
  | _ => false

/-- What is wrong with a host that begins with a bracket. -/
def bracketDefect? (cs : List Char) : Option Defect :=
  if cs.getLast? = some ']' && isIpv6 (cs.drop 1).dropLast then none else some .ipv6

/-! ## Dotted addresses -/

/-- The number that a part of a dotted address writes. -/
def part? (cs : List Char) : Option Nat :=
  match cs with
  | [] => none
  | '0' :: 'x' :: digits | '0' :: 'X' :: digits => numberIn? 16 digits
  | '0' :: digits => numberIn? 8 digits
  | digits => numberIn? 10 digits

/-- The parts of a host between dots. A dot at its end opens no part. -/
def parts (cs : List Char) : List (List Char) :=
  let all := Text.pieces '.' cs
  if all.getLast? = some [] then all.dropLast else all

/-- The last part of a host is a number. -/
def endsInNumber (cs : List Char) : Bool :=
  match (parts cs).getLast? with
  | some last => (!last.isEmpty && last.all Char.isDigit) || (part? last).isSome
  | none => false

/-- At most four numbers, all but the last below 256, the last one for all bytes that are left. -/
def isIpv4 (cs : List Char) : Bool :=
  let ps := parts cs
  match (ps.mapM part?).map List.reverse with
  | some (last :: others) =>
    ps.length ≤ 4 && others.all (· < 256) && last < Nat.pow 256 (4 - others.length)
  | _ => false

/-! ## Hosts of the two kinds of schemes -/

/-- A character with a meaning of its own in a URL. -/
def isDelimiter (c : Char) : Bool := "\x00\t\n\x0d #/:<>?@[\\]^|".toList.contains c

/-- A character that no host of a special scheme has. -/
def isBarred (c : Char) : Bool := c.toNat ≤ 0x20 || c.toNat = 0x7F || c = '%' || isDelimiter c

/-- What is wrong with the host of a special scheme. -/
def specialDefect? (cs : List Char) : Option Defect :=
  if cs.head? = some '[' then bracketDefect? cs
  else
    match Text.Utf8.decode (decoded cs) with
    | .error _ => some .domain
    | .ok name =>
      let cs := name.toList
      if cs.any isBarred then some .domain
      else if cs.isEmpty then some .emptyHost
      else if endsInNumber cs && !isIpv4 cs then some .ipv4
      else none

/-- What is wrong with the host of another scheme. -/
def plainDefect? (cs : List Char) : Option Defect :=
  if cs.head? = some '[' then bracketDefect? cs
  else if cs.any isDelimiter then some .hostCharacter
  else none

end Host

end NameQuery.Url
