import NameQuery.Number.Binary64

/-!
# Numbers written in decimal

Two forms are read from a text as a whole. A whole number is an optional sign and one or more digits
(`wholeNumber?`). A decimal is an optional sign, digits with an optional point and at least one
digit beside it, and an optional exponent, `e` or `E` with an optional sign and at least one digit
(`Decimal.ofText?`). Digits are those of ASCII. Nothing else is read: no blanks, no separators
between digits, no names for infinity or for what is not a number.

A decimal is read exactly and then rounded once, to the nearest double (`Decimal.toBinary64?`).
-/

set_option autoImplicit false

namespace NameQuery

/-- The number that a run of digits denotes. -/
def digitsValue (ds : List Char) : Nat := ds.foldl (fun n d => 10 * n + (d.toNat - '0'.toNat)) 0

/-- The value of a hexadecimal digit, small or capital. -/
def hexDigit? (c : Char) : Option Nat :=
  if c.isDigit then some (c.toNat - '0'.toNat)
  else if 'a' ≤ c && c ≤ 'f' then some (c.toNat - 'a'.toNat + 10)
  else if 'A' ≤ c && c ≤ 'F' then some (c.toNat - 'A'.toNat + 10)
  else none

/-- A digit of the given base, which is at most sixteen. -/
def isDigitIn (base : Nat) (c : Char) : Bool := (hexDigit? c).any (· < base)

/-- The number that digits denote in a base. A character that is no digit of it has no value. -/
def numberIn? (base : Nat) (cs : List Char) : Option Nat :=
  cs.foldlM (fun n c => do
    let d ← hexDigit? c
    if d < base then some (base * n + d) else none) 0

/-- A signed number of 64 bits. -/
def int64? (n : Int) : Option Int64 :=
  if -9_223_372_036_854_775_808 ≤ n ∧ n < 9_223_372_036_854_775_808 then some (Int64.ofInt n)
  else none

/-- The number of a non-empty run of digits. -/
def naturalNumber? (cs : List Char) : Option Nat :=
  if !cs.isEmpty && cs.all Char.isDigit then some (digitsValue cs) else none

/-- A leading sign and the rest of a text: whether the sign is a minus, and what follows it. -/
def signed : List Char → Bool × List Char
  | '-' :: cs => (true, cs)
  | '+' :: cs => (false, cs)
  | cs => (false, cs)

/-- An integer written as an optional sign and digits. -/
def wholeNumber? (cs : List Char) : Option Int :=
  let (negative, ds) := signed cs
  (naturalNumber? ds).map fun n => if negative then -(n : Int) else n

/-- The number `digits * 10 ^ exponent` with a sign. -/
structure Decimal where
  negative : Bool
  digits : Nat
  exponent : Int
deriving DecidableEq

namespace Decimal

/-- The exponent that a text writes: none for the empty text, else the letter and a whole number. -/
def exponentOf? : List Char → Option Int
  | [] => some 0
  | c :: cs => if c = 'e' || c = 'E' then wholeNumber? cs else none

/-- A decimal read from a text. -/
def ofText? (cs : List Char) : Option Decimal :=
  let (negative, cs) := signed cs
  let (whole, rest) := cs.span Char.isDigit
  let (fraction, rest) := match rest with
    | '.' :: rest => rest.span Char.isDigit
    | _ => ([], rest)
  if whole.isEmpty && fraction.isEmpty then none
  else (exponentOf? rest).map fun e =>
    ⟨negative, digitsValue (whole ++ fraction), e - fraction.length⟩

/-- The nearest double. A decimal from 10³¹⁰ on is beyond the range, and one below 10⁻³³⁰ is nearest
to zero; these are settled by the number of digits, so that no power of ten is larger than it has to
be. -/
def toBinary64? (d : Decimal) : Option Binary64 :=
  if d.digits = 0 then some (Binary64.zero d.negative)
  else
    let scale := d.exponent + (Nat.toDigits 10 d.digits).length
    if 310 < scale then none
    else if scale < -330 then some (Binary64.zero d.negative)
    else
      Binary64.round? d.negative (d.digits * Nat.pow 10 d.exponent.toNat)
        (Nat.pow 10 (-d.exponent).toNat)

end Decimal

end NameQuery
