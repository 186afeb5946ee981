import NameQuery.Number.Literal
import NameQuery.Toml.Item

/-!
# Single values in TOML text

Readers of a value at the start of a text: strings in their four forms, booleans, moments, and
numbers. Each reader answers with the value and the rest of the text, or with nothing. A number
stops where no further character belongs to it, and whoever reads on finds out whether something
else may stand there; so `007` is read as a zero, and the digits after it are in the way.

What is decided here beyond the format itself: a whole number has 64 bits with its sign, a number
with a point may be too small for a double but not too large, and a minute has up to sixty-one
seconds.
-/

set_option autoImplicit false

namespace NameQuery.Toml

/-! ## Characters -/

/-- A character of a comment or a string: a tab, or none of the control characters. -/
def isText (c : Char) : Bool := c = '\t' || (0x20 ≤ c.toNat && c.toNat != 0x7f)

/-- A text without the spaces and tabs that it begins with. -/
def blanks (cs : List Char) : List Char := cs.dropWhile fun c => c = ' ' || c = '\t'

/-- What follows the end of a line. -/
def lineEnd? : List Char → Option (List Char)
  | '\n' :: cs => some cs
  | '\r' :: '\n' :: cs => some cs
  | _ => none

/-- A text without the blanks and line ends that it begins with. -/
def blankLines : List Char → List Char
  | ' ' :: cs | '\t' :: cs | '\n' :: cs | '\r' :: '\n' :: cs => blankLines cs
  | cs => cs

/-! ## Strings -/

/-- The character of the given number, and the rest. -/
def numbered? (digits rest : List Char) : Option (Char × List Char) := do
  let n ← numberIn? 16 digits
  if n.isValidChar then some (Char.ofNat n, rest) else none

/-- The character that an escape sequence after its backslash stands for. -/
def escape? : List Char → Option (Char × List Char)
  | '"' :: cs => some ('"', cs)
  | '\\' :: cs => some ('\\', cs)
  | 'b' :: cs => some (Char.ofNat 8, cs)
  | 'f' :: cs => some (Char.ofNat 12, cs)
  | 'n' :: cs => some ('\n', cs)
  | 'r' :: cs => some ('\r', cs)
  | 't' :: cs => some ('\t', cs)
  | 'u' :: a :: b :: c :: d :: cs => numbered? [a, b, c, d] cs
  | 'U' :: a :: b :: c :: d :: e :: f :: g :: h :: cs => numbered? [a, b, c, d, e, f, g, h] cs
  | _ => none

/-- A string on one line, from after its opening double quote. -/
def basicAfter? : Nat → List Char → Option (List Char × List Char)
  | 0, _ | _, [] => none
  | fuel + 1, c :: cs =>
    if c = '"' then some ([], cs)
    else if c = '\\' then do
      let (e, cs) ← escape? cs
      let (text, rest) ← basicAfter? fuel cs
      some (e :: text, rest)
    else if isText c then (basicAfter? fuel cs).map fun (text, rest) => (c :: text, rest)
    else none

/-- A string on one line without escapes, from after its opening single quote. -/
def literalAfter? : List Char → Option (List Char × List Char)
  | [] => none
  | c :: cs =>
    if c = '\'' then some ([], cs)
    else if isText c then (literalAfter? cs).map fun (text, rest) => (c :: text, rest)
    else none

/-- A string of several lines, from after the line end that may follow its opening quotes. Three
quotes close it; up to two more before them belong to it. A backslash at the end of a line joins it
with the next line that is not blank. -/
def linesAfter? (quote : Char) (escapes : Bool) : Nat → List Char → Option (List Char × List Char)
  | 0, _ | _, [] => none
  | fuel + 1, c :: cs =>
    let quotes := (c :: cs).takeWhile (· = quote)
    if 3 ≤ quotes.length then
      some (quotes.take (min quotes.length 5 - 3), (c :: cs).drop (min quotes.length 5))
    else if escapes && c = '\\' then
      match lineEnd? (blanks cs) with
      | some cs => linesAfter? quote escapes fuel (blankLines cs)
      | none => do
        let (e, cs) ← escape? cs
        let (text, rest) ← linesAfter? quote escapes fuel cs
        some (e :: text, rest)
    else if isText c then
      (linesAfter? quote escapes fuel cs).map fun (text, rest) => (c :: text, rest)
    else
      (lineEnd? (c :: cs)).bind fun cs =>
        (linesAfter? quote escapes fuel cs).map fun (text, rest) => ('\n' :: text, rest)

def lineString? : List Char → Option (String × List Char)
  | '"' :: cs => (basicAfter? (cs.length + 1) cs).map fun (text, rest) => (String.ofList text, rest)
  | '\'' :: cs => (literalAfter? cs).map fun (text, rest) => (String.ofList text, rest)
  | _ => none

/-- A string of several lines, from after its opening quotes. -/
def lines? (quote : Char) (escapes : Bool) (cs : List Char) : Option (String × List Char) :=
  let cs := (lineEnd? cs).getD cs
  (linesAfter? quote escapes (cs.length + 1) cs).map fun (text, rest) => (String.ofList text, rest)

def string? : List Char → Option (String × List Char)
  | '"' :: '"' :: '"' :: cs => lines? '"' true cs
  | '\'' :: '\'' :: '\'' :: cs => lines? '\'' false cs
  | cs => lineString? cs

/-! ## Numbers -/

/-- Further digits of a run, of which any may stand after a single underscore. -/
def digitsAfter (isDigit : Char → Bool) : List Char → List Char × List Char
  | [] => ([], [])
  | '_' :: c :: cs =>
    if isDigit c then
      let (ds, rest) := digitsAfter isDigit cs
      (c :: ds, rest)
    else ([], '_' :: c :: cs)
  | c :: cs =>
    if isDigit c then
      let (ds, rest) := digitsAfter isDigit cs
      (c :: ds, rest)
    else ([], c :: cs)

/-- A run of digits without its underscores. -/
def digitRun? (isDigit : Char → Bool) : List Char → Option (List Char × List Char)
  | [] => none
  | c :: cs =>
    if isDigit c then
      let (ds, rest) := digitsAfter isDigit cs
      some (c :: ds, rest)
    else none

/-- Decimal digits that do not begin with a zero, or a zero. -/
def wholeDigits? : List Char → Option (List Char × List Char)
  | '0' :: cs => some (['0'], cs)
  | cs => digitRun? Char.isDigit cs

/-- A whole number in a base other than ten, from after its mark. -/
def based? (base : Nat) (cs : List Char) : Option (Int64 × List Char) := do
  let (ds, rest) ← digitRun? (isDigitIn base) cs
  some (← int64? (← numberIn? base ds), rest)

def integer? : List Char → Option (Int64 × List Char)
  | '0' :: 'x' :: cs => based? 16 cs
  | '0' :: 'o' :: cs => based? 8 cs
  | '0' :: 'b' :: cs => based? 2 cs
  | cs => do
    let (negative, cs) := signed cs
    let (ds, rest) ← wholeDigits? cs
    some (← int64? (if negative then -(digitsValue ds : Int) else digitsValue ds), rest)

def exponent? : List Char → Option (Int × List Char)
  | 'e' :: cs | 'E' :: cs => do
    let (negative, cs) := signed cs
    let (ds, rest) ← digitRun? Char.isDigit cs
    some (if negative then -(digitsValue ds : Int) else digitsValue ds, rest)
  | _ => none

/-- The fraction of a number, with the exponent that may follow it. -/
def fraction? : List Char → Option ((List Char × Int) × List Char)
  | '.' :: cs => do
    let (ds, rest) ← digitRun? Char.isDigit cs
    match exponent? rest with
    | some (e, rest) => some ((ds, e), rest)
    | none => some ((ds, 0), rest)
  | _ => none

/-- The rest of a text after a number with a fraction or an exponent, or after one of the words for
infinity and for what is no number. -/
def afterFloat? (cs : List Char) : Option (List Char) :=
  let (negative, cs) := signed cs
  match cs with
  | 'i' :: 'n' :: 'f' :: rest | 'n' :: 'a' :: 'n' :: rest => some rest
  | _ => do
    let (whole, cs) ← wholeDigits? cs
    let ((fraction, e), rest) ← match fraction? cs with
      | some found => some found
      | none => (exponent? cs).map fun (e, rest) => (([], e), rest)
    let d : Decimal := ⟨negative, digitsValue (whole ++ fraction), e - fraction.length⟩
    if negative || d.toBinary64?.isSome then some rest else none

/-! ## Moments -/

/-- A number of a fixed count of digits, within bounds. -/
def within? (width low high : Nat) (cs : List Char) : Option (Nat × List Char) := do
  let ds := cs.take width
  let n ← naturalNumber? ds
  if ds.length = width && low ≤ n && n ≤ high then some (n, cs.drop width) else none

def after? (c : Char) : List Char → Option (List Char)
  | d :: cs => if c = d then some cs else none
  | [] => none

def daysOf (year month : Nat) : Nat :=
  if month = 2 then
    if year % 4 = 0 && (year % 100 != 0 || year % 400 = 0) then 29 else 28
  else if month = 4 || month = 6 || month = 9 || month = 11 then 30
  else 31

def afterDate? (cs : List Char) : Option (List Char) := do
  let (year, cs) ← within? 4 0 9999 cs
  let (month, cs) ← within? 2 1 12 (← after? '-' cs)
  let (_, cs) ← within? 2 1 (daysOf year month) (← after? '-' cs)
  some cs

def afterTime? (cs : List Char) : Option (List Char) := do
  let (_, cs) ← within? 2 0 23 cs
  let (_, cs) ← within? 2 0 59 (← after? ':' cs)
  let (_, cs) ← within? 2 0 60 (← after? ':' cs)
  match cs with
  | '.' :: c :: rest => some (if c.isDigit then rest.dropWhile Char.isDigit else cs)
  | _ => some cs

/-- What follows the distance of a time from universal time. -/
def afterOffset? : List Char → Option (List Char)
  | 'Z' :: cs | 'z' :: cs => some cs
  | '+' :: cs | '-' :: cs => do
    let (_, cs) ← within? 2 0 23 cs
    let (_, cs) ← within? 2 0 59 (← after? ':' cs)
    some cs
  | _ => none

/-- What follows a time of day that belongs to a date. -/
def afterClock? : List Char → Option (List Char)
  | 'T' :: cs | 't' :: cs | ' ' :: cs => (afterTime? cs).map fun rest => (afterOffset? rest).getD rest
  | _ => none

/-- What follows a date, a date with a time, or a time. -/
def afterMoment? (cs : List Char) : Option (List Char) :=
  match afterDate? cs with
  | some rest => some ((afterClock? rest).getD rest)
  | none => afterTime? cs

/-! ## All of them -/

/-- The text in front of a rest of it. -/
def textBefore (rest cs : List Char) : String := String.ofList (cs.take (cs.length - rest.length))

def scalar? (cs : List Char) : Option (Item × List Char) :=
  match cs with
  | 't' :: 'r' :: 'u' :: 'e' :: rest => some (.boolean true, rest)
  | 'f' :: 'a' :: 'l' :: 's' :: 'e' :: rest => some (.boolean false, rest)
  | _ =>
    match string? cs with
    | some (s, rest) => some (.string s, rest)
    | none =>
      match afterMoment? cs with
      | some rest => some (.moment (textBefore rest cs), rest)
      | none =>
        match afterFloat? cs with
        | some rest => some (.float (textBefore rest cs), rest)
        | none => (integer? cs).map fun (n, rest) => (.integer n, rest)

end NameQuery.Toml
