import NameQuery.Json.Basic
import NameQuery.Number.Literal

/-!
# JSON data from text

A reader of JSON text. What is decided here beyond the format itself is the value of a number
(`NumberText.value?`). Without point and exponent, and within 64 bits, it is a whole number; `-0` is
the double with that sign. Any other number is a double, read in two steps: its leading digits, as
many as fit 64 bits unsigned, are rounded to a double, and this is multiplied or divided by one
power of ten, itself a double. The result can differ in its last bit from the double nearest to the
text.

The functions count down a measure that the text's length bounds from above, so each of them is
total.
-/

set_option autoImplicit false

namespace NameQuery.Json

/-! ## Numbers -/

/-- A number as it is written: its digits before and after the point, and its exponent, where there
is one. -/
structure NumberText where
  negative : Bool
  whole : List Char
  fraction : Option (List Char)
  exponent : Option Int

/-- The leading digits of a number so far, and the power of ten that they are short of the number. -/
structure Scaled where
  digits : Nat
  power : Int
  /-- A digit did not fit, and no later one of the same part is taken. -/
  full : Bool

namespace Scaled

/-- A further digit before the point: taken where it fits, counted where it does not. -/
def whole (s : Scaled) (c : Char) : Scaled :=
  let next := 10 * s.digits + (c.toNat - '0'.toNat)
  if !s.full && next < UInt64.size then { s with digits := next } else ⟨s.digits, s.power + 1, true⟩

/-- A further digit after the point: taken where it fits, dropped where it does not. -/
def fraction (s : Scaled) (c : Char) : Scaled :=
  let next := 10 * s.digits + (c.toNat - '0'.toNat)
  if !s.full && next < UInt64.size then ⟨next, s.power - 1, false⟩ else { s with full := true }

/-- The power of ten up to 10³⁰⁸ as a double. -/
def tenTo (n : Nat) : Binary64 := Binary64.ofInt (Nat.pow 10 n)

/-- The digits, rounded, times the power of ten, rounded. A divisor beyond 10³⁰⁸ is split in two;
what is left after a second division by 10³⁰⁸ is zero. -/
def toBinary64? (s : Scaled) : Option Binary64 :=
  let f := Binary64.ofInt s.digits
  if s.digits = 0 then some f
  else if 308 < s.power then none
  else if 0 ≤ s.power then f.mul? (tenTo s.power.toNat)
  else if -308 ≤ s.power then f.div? (tenTo (-s.power).toNat)
  else if -616 ≤ s.power then (f.div? (tenTo 308)).bind (·.div? (tenTo (-s.power - 308).toNat))
  else some (Binary64.zero false)

end Scaled

def NumberText.value? (t : NumberText) : Option Number :=
  let w := t.whole.foldl Scaled.whole ⟨0, 0, false⟩
  let n : Int := if t.negative then -(w.digits : Int) else w.digits
  let plain := t.fraction.isNone && t.exponent.isNone && !w.full && !(t.negative && w.digits = 0)
  match if plain then Number.ofInt? n else none with
  | some whole => some whole
  | none =>
    let s := (t.fraction.getD []).foldl Scaled.fraction { w with full := false }
    let s := { s with power := s.power + t.exponent.getD 0 }
    s.toBinary64?.map fun x => .float (if t.negative then x.negated else x)

/-- Digits at the start of a text, at least one. -/
def digits? (cs : List Char) : Option (List Char × List Char) :=
  let (ds, rest) := cs.span Char.isDigit
  if ds.isEmpty then none else some (ds, rest)

/-- A number at the start of a text. A zero is no leading digit of a longer number. -/
def numberAt? (cs : List Char) : Option (Number × List Char) := do
  let (negative, cs) := match cs with
    | '-' :: cs => (true, cs)
    | _ => (false, cs)
  let (whole, cs) ← digits? cs
  if whole.length != 1 && whole.head? = some '0' then none
  let (fraction, cs) ← match cs with
    | '.' :: cs => (digits? cs).map fun (ds, cs) => (some ds, cs)
    | _ => some (none, cs)
  let (exponent, cs) ← match cs with
    | 'e' :: cs | 'E' :: cs =>
      let (minus, cs) := signed cs
      (digits? cs).map fun (ds, cs) =>
        (some (if minus then -(digitsValue ds : Int) else digitsValue ds), cs)
    | _ => some (none, cs)
  let n ← NumberText.value? ⟨negative, whole, fraction, exponent⟩
  some (n, cs)

/-! ## Strings -/

/-- The number of four hexadecimal digits at the start of a text. -/
def hexUnit? : List Char → Option (Nat × List Char)
  | a :: b :: c :: d :: cs => (numberIn? 16 [a, b, c, d]).map (·, cs)
  | _ => none

/-- The character that an escape sequence after its backslash stands for. A character beyond the
basic plane is written as two units. -/
def escapeAt? : List Char → Option (Char × List Char)
  | '"' :: cs => some ('"', cs)
  | '\\' :: cs => some ('\\', cs)
  | '/' :: cs => some ('/', cs)
  | 'b' :: cs => some (Char.ofNat 8, cs)
  | 'f' :: cs => some (Char.ofNat 12, cs)
  | 'n' :: cs => some ('\n', cs)
  | 'r' :: cs => some ('\r', cs)
  | 't' :: cs => some ('\t', cs)
  | 'u' :: cs => do
    let (high, cs) ← hexUnit? cs
    if high < 0xd800 || 0xdfff < high then some (Char.ofNat high, cs)
    else if high < 0xdc00 then
      match cs with
      | '\\' :: 'u' :: cs =>
        let (low, cs) ← hexUnit? cs
        if 0xdc00 ≤ low && low ≤ 0xdfff then
          some (Char.ofNat (0x10000 + (high - 0xd800) * 0x400 + (low - 0xdc00)), cs)
        else none
      | _ => none
    else none
  | _ => none

/-- The rest of a string after its opening quote, and what follows its closing quote. -/
def stringAt? : Nat → List Char → List Char → Option (String × List Char)
  | 0, _, _ => none
  | _, _, [] => none
  | fuel + 1, done, c :: cs =>
    if c = '"' then some (String.ofList done.reverse, cs)
    else if c = '\\' then (escapeAt? cs).bind fun (e, cs) => stringAt? fuel (e :: done) cs
    else if c.toNat < 32 then none
    else stringAt? fuel (c :: done) cs

/-! ## Values -/

/-- A text without the blanks that JSON allows between its parts. -/
def skipBlanks (cs : List Char) : List Char :=
  cs.dropWhile fun c => c = ' ' || c = '\n' || c = '\r' || c = '\t'

mutual

def valueAt? : Nat → List Char → Option (Json × List Char)
  | 0, _ => none
  | fuel + 1, cs =>
    match skipBlanks cs with
    | 'n' :: 'u' :: 'l' :: 'l' :: cs => some (.null, cs)
    | 't' :: 'r' :: 'u' :: 'e' :: cs => some (.bool true, cs)
    | 'f' :: 'a' :: 'l' :: 's' :: 'e' :: cs => some (.bool false, cs)
    | '"' :: cs => (stringAt? (cs.length + 1) [] cs).map fun (s, cs) => (.string s, cs)
    | '[' :: cs =>
      match skipBlanks cs with
      | ']' :: cs => some (.array [], cs)
      | cs => elementsAt? fuel [] cs
    | '\x7b' :: cs =>
      match skipBlanks cs with
      | '\x7d' :: cs => some (.object [], cs)
      | cs => membersAt? fuel [] cs
    | cs => (numberAt? cs).map fun (n, cs) => (.number n, cs)

def elementsAt? : Nat → List Json → List Char → Option (Json × List Char)
  | 0, _, _ => none
  | fuel + 1, done, cs => do
    let (e, cs) ← valueAt? fuel cs
    match skipBlanks cs with
    | ',' :: cs => elementsAt? fuel (e :: done) cs
    | ']' :: cs => some (.array (e :: done).reverse, cs)
    | _ => none

def membersAt? : Nat → List (String × Json) → List Char → Option (Json × List Char)
  | 0, _, _ => none
  | fuel + 1, done, cs =>
    match skipBlanks cs with
    | '"' :: cs => do
      let (name, cs) ← stringAt? (cs.length + 1) [] cs
      match skipBlanks cs with
      | ':' :: cs =>
        let (value, cs) ← valueAt? fuel cs
        match skipBlanks cs with
        | ',' :: cs => membersAt? fuel ((name, value) :: done) cs
        | '\x7d' :: cs => some (ofMembers ((name, value) :: done).reverse, cs)
        | _ => none
      | _ => none
    | _ => none

end

/-- JSON data from a whole text. Every second step of the reading takes a character, which bounds
the number of steps. -/
def ofText? (s : String) : Option Json :=
  let cs := s.toList
  match valueAt? (2 * cs.length + 2) cs with
  | some (j, rest) => if (skipBlanks rest).isEmpty then some j else none
  | none => none

end NameQuery.Json
