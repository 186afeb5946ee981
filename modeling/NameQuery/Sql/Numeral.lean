import NameQuery.Number.Extended
import NameQuery.Number.Literal
import NameQuery.Number.Shortest

/-!
# Numerals

How SQLite reads numbers and writes them. A text begins with a numeral (`Numeral.scan`): a sign,
digits with an optional point, and an exponent; blanks around it do not count, and what is left
after it says that the text is no number as a whole. Only as many digits count as fit 64 bits. A
numeral whose power of ten does not vanish is computed in numbers of 64 bits (`Extended`), and above
the greatest double it is infinite (`Numeral.double?`).

A double is written in fifteen digits at most, taken from its whole part after it was brought
between 10¹⁷ and 10¹⁹ (`realText`).
-/

set_option autoImplicit false

namespace NameQuery.Sql

/-- The numeral that a text begins with. -/
structure Numeral where
  negative : Bool
  /-- The digits that count. -/
  significand : Nat
  /-- The power of ten. -/
  exponent : Int
  /-- There is neither a point nor an exponent. -/
  whole : Bool
  /-- The text is a number as a whole. -/
  complete : Bool

namespace Numeral

/-- A character that may stand around a numeral. -/
def isBlank (c : Char) : Bool := c = ' ' || (9 ≤ c.toNat && c.toNat ≤ 13)

/-- The significand from which on no further digit counts. -/
def full : Nat := 1_844_674_407_370_955_160

/-- The digits before the point on top of `s`: the significand, and how many digits did not count. -/
def wholeDigits (s : Nat) : List Char → Nat × Nat
  | [] => (s, 0)
  | d :: ds => if full ≤ s then (s, (d :: ds).length) else wholeDigits (10 * s + digitsValue [d]) ds

/-- The digits after the point on top of `s`: the significand, and how many digits counted. -/
def fractionDigits (s counted : Nat) : List Char → Nat × Nat
  | [] => (s, counted)
  | d :: ds =>
    if full ≤ s then (s, counted) else fractionDigits (10 * s + digitsValue [d]) (counted + 1) ds

/-- The size of a written exponent. One of more than five digits is cut. -/
def exponentSize (ds : List Char) : Nat :=
  ds.foldl (fun e d => if e < 10_000 then 10 * e + digitsValue [d] else 10_000) 0

/-- The exponent that a text begins with after its letter: its value, whether it has digits, and
what follows. -/
def exponentOf (cs : List Char) : Int × Bool × List Char :=
  let (negative, cs) := signed cs
  let (ds, rest) := cs.span Char.isDigit
  let size : Int := exponentSize ds
  (if negative then -size else size, !ds.isEmpty, rest)

def scan (cs : List Char) : Numeral :=
  let (negative, cs) := signed (cs.dropWhile isBlank)
  let (ds, rest) := cs.span Char.isDigit
  let (fraction, point, rest) := match rest with
    | '.' :: rest => let (fs, rest) := rest.span Char.isDigit; (fs, true, rest)
    | _ => ([], false, rest)
  let (exponent, written, valid, rest) := match rest with
    | c :: cs =>
      if c = 'e' || c = 'E' then
        let (e, valid, rest) := exponentOf cs
        (e, true, valid, rest)
      else (0, false, true, rest)
    | [] => (0, false, true, [])
  let (s, passed) := wholeDigits 0 ds
  let (s, counted) := fractionDigits s 0 fraction
  { negative
    significand := s
    exponent := exponent + passed - counted
    whole := !point && !written
    complete := !(ds.isEmpty && fraction.isEmpty) && valid && rest.all isBlank }

/-- The digits that a positive exponent adds to a significand as long as 64 bits hold it. -/
def enlarged : Nat → Nat → Nat × Nat
  | s, 0 => (s, 0)
  | s, e + 1 => if s < 1_844_674_407_370_955_161 then enlarged (10 * s) e else (s, e + 1)

/-- The zeros that a negative exponent takes from the end of a significand. -/
def reduced : Nat → Nat → Nat × Nat
  | s, 0 => (s, 0)
  | s, e + 1 => if s % 10 = 0 then reduced (s / 10) e else (s, e + 1)

/-- The double of a numeral, or nothing where it is infinite. -/
def double? (n : Numeral) : Option Binary64 :=
  if n.significand = 0 then some (Binary64.zero n.negative)
  else
    let (s, e) : Nat × Int :=
      if 0 < n.exponent then
        let (s, e) := enlarged n.significand n.exponent.toNat
        (s, e)
      else
        let (s, e) := reduced n.significand (-n.exponent).toNat
        (s, -e)
    ((Extended.mk s 0).scaled e).toBinary64? n.negative

end Numeral

/-- The whole number of 64 bits that a text is. -/
def wholeOf? (cs : List Char) : Option Int64 :=
  let cs := ((cs.dropWhile Numeral.isBlank).reverse.dropWhile Numeral.isBlank).reverse
  (wholeNumber? cs).bind int64?

/-! ## Doubles as texts -/

/-- A number times a power of ten as long as it is below a bound, with the exponent that it gets. The
fuel is the number of times. -/
def raised (bound : Extended) (k : Int) : Nat → Extended × Int → Extended × Int
  | 0, xe => xe
  | fuel + 1, (x, e) =>
    if bound.le x then (x, e) else raised bound k fuel (x.mul (Extended.powerOfTen k), e - k)

/-- A number divided by a power of ten as long as it is not below a bound. -/
def lowered (bound : Extended) (k : Int) : Nat → Extended × Int → Extended × Int
  | 0, xe => xe
  | fuel + 1, (x, e) =>
    if bound.le x then lowered bound k fuel (x.mul (Extended.powerOfTen (-k)), e + k) else (x, e)

/-- The digits of a positive double and the number of digits before its point: its whole part after
it was brought between 10¹⁷ and 10¹⁹. -/
def longDigits (x : Binary64) : ShortDecimal :=
  let ten := Extended.powerOfTen
  let start := (Extended.ofBinary64 x, 0)
  let (y, e) :=
    if (ten 19).le start.1 then
      lowered (ten 19) 1 12 (lowered (ten 29) 10 12 (lowered (ten 119) 100 12 start))
    else raised (ten 17) 1 12 (raised (ten 7) 10 12 (raised (ten (-97)) 100 12 start))
  let ds := Nat.toDigits 10 y.floor
  ⟨ds, ds.length + e⟩

/-- The digits of a positive double, rounded to fifteen, a five up, without zeros at the end. -/
def fifteenDigits (x : Binary64) : ShortDecimal :=
  let long := longDigits x
  let n := digitsValue (long.digits.take 15)
  let ds := Nat.toDigits 10 (if long.digits[15]?.any ('5' ≤ ·) then n + 1 else n)
  ⟨(ds.reverse.dropWhile (· = '0')).reverse, long.point + (ds.length - 15)⟩

/-- A double as text: fifteen digits at most and always a point, without an exponent from 10⁻⁴ up to
10¹⁵, the exponent in two digits at least. -/
def realText (x : Binary64) : String :=
  if x.mantissa = 0 then "0.0"
  else
    let short := fifteenDigits x
    let sign := if x.negative then ['-'] else []
    let e := short.point - 1
    String.ofList <| sign ++
      if -4 ≤ e && e ≤ 14 then Layout.positional true short.digits short.point
      else
        let exponent := Nat.toDigits 10 e.natAbs
        short.digits.take 1 ++ ['.'] ++
          (if short.digits.length ≤ 1 then ['0'] else short.digits.drop 1) ++
          ['e', if e < 0 then '-' else '+'] ++
          (if exponent.length < 2 then '0' :: exponent else exponent)

end NameQuery.Sql
