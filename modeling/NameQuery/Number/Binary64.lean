/-!
# Finite doubles

A finite double is a sign, a mantissa below 2⁵³ and a power of two, kept in the one form in which
the mantissa is as large as it can be. What is decided here: which double is nearest to a quotient
of natural numbers (`round?`, a tie going to the even mantissa, nothing where the quotient is too
large), and when two doubles are equal or in order.

Every finite double is a whole multiple of 2⁻¹⁰⁷⁴. `units` counts these multiples, so that equality
and order of doubles are equality and order of integers, and the two zeros are equal. Infinities and
NaN are no values of this type; a reading or a rounding that would need one has no result.
-/

set_option autoImplicit false

namespace NameQuery

/-- Mantissa and exponent in the one form that is kept: the mantissa has 53 bits, or the exponent is
the least one. -/
def Binary64.Canonical (mantissa : Nat) (exponent : Int) : Prop :=
  mantissa < Nat.pow 2 53 ∧ -1074 ≤ exponent ∧ exponent ≤ 971 ∧
    (Nat.pow 2 52 ≤ mantissa ∨ exponent = -1074)

instance (mantissa : Nat) (exponent : Int) : Decidable (Binary64.Canonical mantissa exponent) :=
  inferInstanceAs (Decidable (_ ∧ _ ∧ _ ∧ _))

/-- A finite double: the number `mantissa * 2 ^ exponent` with a sign. -/
structure Binary64 where
  negative : Bool
  mantissa : Nat
  exponent : Int
  canonical : Binary64.Canonical mantissa exponent
deriving DecidableEq

namespace Binary64

def zero (negative : Bool) : Binary64 := ⟨negative, 0, -1074, by decide⟩

instance : Inhabited Binary64 := ⟨zero false⟩

/-- The double with the given parts, where they have the form that is kept. -/
def ofParts? (negative : Bool) (mantissa : Nat) (exponent : Int) : Option Binary64 :=
  if h : Canonical mantissa exponent then some ⟨negative, mantissa, exponent, h⟩ else none

/-- The size of a double in multiples of 2⁻¹⁰⁷⁴. -/
def magnitude (x : Binary64) : Nat := x.mantissa * Nat.pow 2 (x.exponent + 1074).toNat

/-- A double in multiples of 2⁻¹⁰⁷⁴. -/
def units (x : Binary64) : Int := if x.negative then -x.magnitude else x.magnitude

/-! ## Order -/

/-- Two doubles that are the same number. The two zeros are. -/
def same (x y : Binary64) : Bool := x.units == y.units

/-- The order of two doubles as numbers. -/
def order (x y : Binary64) : Ordering := compare x.units y.units

/-! ## Rounding -/

/-- The whole number nearest to `num / den`, of two equally near the even one. -/
def halfEven (num den : Nat) : Nat :=
  let q := num / den
  let r := num % den
  if 2 * r < den then q else if den < 2 * r then q + 1 else if q % 2 = 0 then q else q + 1

/-- The greatest `k` with `2 ^ k ≤ num / den`, for positive `num` and `den`. -/
def floorLog2 (num den : Nat) : Int :=
  let k : Int := (num.log2 : Int) - den.log2
  if den * Nat.pow 2 k.toNat ≤ num * Nat.pow 2 (-k).toNat then k else k - 1

/-- The double nearest to `num / den`, of two equally near the one with the even mantissa. Nothing
where the nearest number of 53 bits is beyond the range of finite doubles. -/
def round? (negative : Bool) (num den : Nat) : Option Binary64 :=
  if num = 0 then some (zero negative)
  else
    let e := max (floorLog2 num den - 52) (-1074)
    let m := halfEven (num * Nat.pow 2 (-e).toNat) (den * Nat.pow 2 e.toNat)
    if m = Nat.pow 2 53 then ofParts? negative (Nat.pow 2 52) (e + 1) else ofParts? negative m e

def ofInt? (n : Int) : Option Binary64 := round? (n < 0) n.natAbs 1

/-- The double nearest to a whole number of at most 64 bits, which is always finite. -/
def ofInt (n : Int) : Binary64 := (ofInt? n).getD (zero false)

/-- The whole number that a double is, where it is one. -/
def toInt? (x : Binary64) : Option Int :=
  if x.units % Nat.pow 2 1074 = 0 then some (x.units / Nat.pow 2 1074) else none

def negated (x : Binary64) : Binary64 := { x with negative := !x.negative }

def mul? (x y : Binary64) : Option Binary64 :=
  let e := x.exponent + y.exponent
  round? (x.negative != y.negative) (x.mantissa * y.mantissa * Nat.pow 2 e.toNat)
    (Nat.pow 2 (-e).toNat)

/-- The quotient, rounded. Nothing where the divisor is zero. -/
def div? (x y : Binary64) : Option Binary64 :=
  if y.mantissa = 0 then none
  else
    let e := x.exponent - y.exponent
    round? (x.negative != y.negative) (x.mantissa * Nat.pow 2 e.toNat)
      (y.mantissa * Nat.pow 2 (-e).toNat)

end Binary64

end NameQuery
