import NameQuery.Number.Binary64

/-!
# The shortest decimal of a double

A double is written with the fewest digits that read back as the same double, and of the decimals
with that many digits with the nearest one. The decimals that read back are those of an interval
around the double: half a step to each side (a quarter of a step down from a power of two), its ends
included where the mantissa is even. For one digit, two digits, and so on, the two neighbours of the
double on that decimal grid are tried, and the first grid with a neighbour inside is the one.

How the digits are laid out is a separate choice, the `Layout`: which sizes are written without an
exponent, whether a whole number keeps a point, and which of two equally near decimals is taken.
-/

set_option autoImplicit false

namespace NameQuery

/-- Which of two equally near decimals is taken. -/
inductive Tie
  | toEven
  | away
deriving DecidableEq

/-- The digits of a positive number, without zeros at either end, and the number of digits before
the point: the number is `0.digits * 10 ^ point`. -/
structure ShortDecimal where
  digits : List Char
  point : Int

namespace Binary64

/-- The greatest `k` with `10 ^ k ≤ num / den`, for positive `num` and `den`. -/
def floorLog10 (num den : Nat) : Int :=
  if den ≤ num then ((Nat.toDigits 10 (num / den)).length : Int) - 1
  else
    let k := (Nat.toDigits 10 (den / num)).length
    if den ≤ num * Nat.pow 10 (k - 1) then 1 - (k : Int) else -(k : Int)

/-- The decimals `d * 10 ^ j` next to a positive double that read back as it, the nearer one if both
do. The double and the ends of its interval are `4 * mantissa`, `+ 2` and `- 2` (or `- 1`) in steps
of `2 ^ (exponent - 2)`. -/
def onGrid? (tie : Tie) (x : Binary64) (j : Int) : Option Nat :=
  let step := x.exponent - 2
  let up := Nat.pow 2 step.toNat * Nat.pow 10 (-j).toNat
  let den := Nat.pow 2 (-step).toNat * Nat.pow 10 j.toNat
  let num := 4 * x.mantissa * up
  let low := (4 * x.mantissa - if x.mantissa = Nat.pow 2 52 && x.exponent != -1074 then 1 else 2) * up
  let high := (4 * x.mantissa + 2) * up
  let inside := fun d =>
    if x.mantissa % 2 = 0 then low ≤ d * den && d * den ≤ high else low < d * den && d * den < high
  let below := num / den
  let above := below + 1
  let nearerBelow := match compare (2 * (num % den)) den, tie with
    | .lt, _ => true
    | .gt, _ => false
    | .eq, .toEven => below % 2 = 0
    | .eq, .away => false
  match inside below, inside above with
  | true, true => some (if nearerBelow then below else above)
  | true, false => some below
  | false, true => some above
  | false, false => none

/-- The fewest digits that read back, of a double other than zero. Seventeen always do. -/
def shortest (tie : Tie) (x : Binary64) : ShortDecimal :=
  let k := floorLog10 (x.mantissa * Nat.pow 2 x.exponent.toNat) (Nat.pow 2 (-x.exponent).toNat)
  let found := (List.range 17).findSome? fun (more : Nat) =>
    (onGrid? tie x (k - more)).map fun d => (d, k - more)
  let (d, j) := found.getD (0, 0)
  let ds := Nat.toDigits 10 d
  ⟨(ds.reverse.dropWhile (· = '0')).reverse, ds.length + j⟩

end Binary64

/-- How the digits of a double are laid out. -/
structure Layout where
  /-- The positions of the point at which a number is written without an exponent. -/
  plain : Int → Bool
  /-- A whole number written without an exponent ends in `.0`. -/
  wholePoint : Bool
  tie : Tie

namespace Layout

/-- A number without an exponent: zeros fill up to the point and after it. -/
def positional (wholePoint : Bool) (digits : List Char) (point : Int) : List Char :=
  let zeros := fun (n : Int) => List.replicate n.toNat '0'
  if point ≤ 0 then '0' :: '.' :: zeros (-point) ++ digits
  else if digits.length ≤ point then
    digits ++ zeros (point - digits.length) ++ if wholePoint then ['.', '0'] else []
  else digits.take point.toNat ++ '.' :: digits.drop point.toNat

/-- A number with one digit before the point and an exponent with its sign. -/
def scientific (digits : List Char) (point : Int) : List Char :=
  let e := point - 1
  digits.take 1 ++ (if digits.length ≤ 1 then [] else '.' :: digits.drop 1) ++
    ['e', if e < 0 then '-' else '+'] ++ Nat.toDigits 10 e.natAbs

def write (layout : Layout) (x : Binary64) : String :=
  let sign := if x.negative then ['-'] else []
  let size :=
    if x.mantissa = 0 then '0' :: if layout.wholePoint then ['.', '0'] else []
    else
      let short := x.shortest layout.tie
      if layout.plain short.point then positional layout.wholePoint short.digits short.point
      else scientific short.digits short.point
  String.ofList (sign ++ size)

end Layout

end NameQuery
