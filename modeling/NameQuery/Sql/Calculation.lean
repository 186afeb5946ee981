import NameQuery.Sql.Syntax

/-!
# Calculation with cells

What the operators of SQL make of cells (`PairOp.on`, `SignOp.on`). A text counts as the number that
it begins with where a number is called for, and null makes the result null, except where a condition
is settled by its other side. Whole numbers stay whole as long as 64 bits hold the result and are
doubles beyond; a division by zero and a result that is no number are null.

Two cells are compared under the affinity of both sides together (`Affinity.common`).
-/

set_option autoImplicit false

namespace NameQuery

namespace Binary64

def add? (x y : Binary64) : Option Binary64 :=
  let sum := x.units + y.units
  round? (sum < 0) sum.natAbs (Nat.pow 2 1074)

/-- A double without its fraction. -/
def truncated (x : Binary64) : Int := x.units.tdiv (Nat.pow 2 1074)

end Binary64

namespace Sql

namespace Cell

/-! ## Truth -/

/-- A condition as a cell. -/
def ofTruth : Option Bool → Cell
  | none => .null
  | some b => .integer (if b then 1 else 0)

def both : Option Bool → Option Bool → Option Bool
  | some false, _ | _, some false => some false
  | some true, some true => some true
  | _, _ => none

/-- One of two conditions holds. -/
def either (a b : Option Bool) : Option Bool := (both (a.map not) (b.map not)).map not

/-! ## Numbers -/

def least : Int := -9_223_372_036_854_775_808

def greatest : Int := 9_223_372_036_854_775_807

/-- The nearest whole number of 64 bits. -/
def clamped (n : Int) : Int := max least (min greatest n)

/-- The number that a numeral without a point and an exponent is, where 64 bits hold it. -/
def wholeOfNumeral? (n : Numeral) : Option Int :=
  let value : Int := if n.negative then -n.significand else n.significand
  if n.exponent = 0 && clamped value = value then some value else none

def asNumber : Cell → Cell
  | .text s =>
    let n := Numeral.scan s.toList
    match if n.whole then wholeOfNumeral? n else none with
    | some value => .integer value
    | none => ofNumeral n
  | c => c

/-- A cell as a whole number; what follows the digits of a text does not count. -/
def asInt : Cell → Int
  | .null => 0
  | .integer n => n
  | .real x => clamped x.truncated
  | .infinite negative => if negative then least else greatest
  | .text s =>
    let n := Numeral.scan ((s.toList.dropWhile Numeral.isBlank).takeWhile fun c =>
      c.isDigit || c = '-' || c = '+')
    (wholeOfNumeral? n).getD (if n.negative then least else greatest)

/-- A number as a double, or nothing where it is infinite. -/
def double? : Cell → Option Binary64
  | .integer n => some (Binary64.ofInt n)
  | .real x => some x
  | _ => none

def isNegative : Cell → Bool
  | .integer n => n < 0
  | .real x => x.negative
  | .infinite negative => negative
  | _ => false

def isZero : Cell → Bool
  | .integer n => n = 0
  | .real x => x.mantissa = 0
  | _ => false

/-- The result of a calculation in doubles, infinite where it is none. -/
def ofRounded (negative : Bool) : Option Binary64 → Cell
  | some x => .real x
  | none => .infinite negative

def opposite : Cell → Cell
  | .real x => .real x.negated
  | .infinite negative => .infinite !negative
  | .integer n => .integer (-n)
  | c => c

def sum (a b : Cell) : Cell :=
  match a, b, a.double?, b.double? with
  | _, _, some x, some y => ofRounded x.negative (x.add? y)
  | .infinite s, .infinite t, _, _ => if s = t then .infinite s else .null
  | .infinite s, _, _, _ | _, .infinite s, _, _ => .infinite s
  | _, _, _, _ => .null

def product (a b : Cell) : Cell :=
  let negative := a.isNegative != b.isNegative
  match a.double?, b.double? with
  | some x, some y => ofRounded negative (x.mul? y)
  | _, _ => if a.isZero || b.isZero then .null else .infinite negative

def quotient (a b : Cell) : Cell :=
  let negative := a.isNegative != b.isNegative
  if b.isZero then .null
  else
    match a.double?, b.double? with
    | some x, some y => ofRounded negative (x.div? y)
    | some _, none => .real (Binary64.zero negative)
    | none, some _ => .infinite negative
    | none, none => .null

/-- A whole result, where 64 bits hold it. -/
def wholeOr (n : Int) (otherwise : Cell) : Cell := if clamped n = n then .integer n else otherwise

/-- The remainder of two numbers without their fractions, with the sign of the first one. -/
def remainder (a b : Cell) : Cell :=
  let d := b.asInt
  if d = 0 then .null
  else
    let r := a.asInt.tmod d
    match a, b with
    | .integer _, .integer _ => .integer r
    | _, _ => .real (Binary64.ofInt r)

/-- What an operator for numbers makes of two cells. -/
def calculated (op : PairOp) (a b : Cell) : Cell :=
  match a.asNumber, b.asNumber with
  | .null, _ | _, .null => .null
  | .integer m, .integer n =>
    let x := Cell.integer m
    let y := Cell.integer n
    match op with
    | .add => wholeOr (m + n) (sum x y)
    | .subtract => wholeOr (m - n) (sum x (opposite y))
    | .multiply => wholeOr (m * n) (product x y)
    | .divide => if n = 0 then .null else wholeOr (m.tdiv n) (quotient x y)
    | _ => remainder x y
  | x, y =>
    match op with
    | .add => sum x y
    | .subtract => sum x (opposite y)
    | .multiply => product x y
    | .divide => quotient x y
    | _ => remainder x y

def converted (type : Affinity) (c : Cell) : Cell :=
  match c, type with
  | .null, _ => .null
  | c, .text | c, .untyped => c.numberAsText
  | c, .integer => .integer c.asInt
  | c, .real => match c.asNumber with
    | .integer n => .real (Binary64.ofInt n)
    | x => x
  | .text s, .numeric => match (Cell.text s).asNumber with
    | .real x => asWhole x
    | n => n
  | c, .numeric => c

/-! ## Texts -/

/-- A text has the form of a pattern: a percent sign stands for any characters and an underscore for
one. Capitals of ASCII do not count. -/
def hasForm : List Char → List Char → Bool
  | [], cs => cs.isEmpty
  | '%' :: ps, [] => hasForm ps []
  | '%' :: ps, c :: cs => hasForm ps (c :: cs) || hasForm ('%' :: ps) cs
  | _ :: _, [] => false
  | p :: ps, c :: cs => (p = '_' || p.toLower = c.toLower) && hasForm ps cs
termination_by ps cs => ps.length + cs.length

/-- A cell as text, or nothing for null. -/
def text? (c : Cell) : Option String :=
  match c.numberAsText with
  | .text s => some s
  | _ => none

end Cell

/-! ## Comparison -/

/-- The affinity under which two sides are compared: numbers if one of two columns prefers them, and
that of the only column if there is one. -/
def Affinity.common : Option Affinity → Option Affinity → Option Affinity
  | some a, some b => some (if a.isNumeric || b.isNumeric then .numeric else .untyped)
  | some a, none | none, some a => some a
  | none, none => none

/-- The order of two cells under an affinity, or nothing if one is null. -/
def Affinity.compare? (affinity : Option Affinity) (a b : Cell) : Option Ordering :=
  let aligned := fun (c : Cell) => (affinity.getD .untyped).aligned a b c
  match aligned a, aligned b with
  | .null, _ | _, .null => none
  | x, y => some (x.order y)

/-- What an operator makes of two cells that are compared under an affinity. -/
def PairOp.on (op : PairOp) (affinity : Option Affinity) (a b : Cell) : Cell :=
  let compared := fun (holds : Ordering → Bool) =>
    Cell.ofTruth ((Affinity.compare? affinity a b).map holds)
  let same := match a, b with
    | .null, .null => true
    | a, b => Affinity.compare? affinity a b = some .eq
  match op with
  | .or => .ofTruth (Cell.either a.holds? b.holds?)
  | .and => .ofTruth (Cell.both a.holds? b.holds?)
  | .equal => compared (· = .eq)
  | .unequal => compared (· ≠ .eq)
  | .less => compared (· = .lt)
  | .atMost => compared (· ≠ .gt)
  | .greater => compared (· = .gt)
  | .atLeast => compared (· ≠ .lt)
  | .same => .ofTruth (some same)
  | .different => .ofTruth (some !same)
  | .like => match a.text?, b.text? with
    | some s, some pattern => .ofTruth (some (Cell.hasForm pattern.toList s.toList))
    | _, _ => .null
  | .concat => match a.text?, b.text? with
    | some s, some t => .text (s ++ t)
    | _, _ => .null
  | op => Cell.calculated op a b

/-- What an operator makes of the cell behind it. -/
def SignOp.on : SignOp → Cell → Cell
  | .not, c => .ofTruth (c.holds?.map (!·))
  | .minus, c => Cell.calculated .subtract (.integer 0) c
  | .plus, c => c

end Sql

end NameQuery
