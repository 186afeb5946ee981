import NameQuery.Number.Binary64

/-!
# Numbers of 64 bits

A positive number with a mantissa of 64 bits and a power of two without bounds. Products are rounded
to 64 bits, a tie to the even mantissa. A power of ten is multiplied in steps of 10¹⁰⁰, 10¹⁰ and 10
(`scaled`), each step rounded, so that the result may differ from the nearest number in its last
bits: that difference is what the readers and writers on top of this module depend on.
-/

set_option autoImplicit false

namespace NameQuery

/-- The number `mantissa * 2 ^ exponent`. -/
structure Extended where
  mantissa : Nat
  exponent : Int
deriving DecidableEq

namespace Extended

/-- The number `m * 2 ^ e`, rounded to 64 bits. -/
def ofScaled (m : Nat) (e : Int) : Extended :=
  let surplus := m.log2 - 63
  ⟨Binary64.halfEven m (Nat.pow 2 surplus), e + surplus⟩

def mul (x y : Extended) : Extended := ofScaled (x.mantissa * y.mantissa) (x.exponent + y.exponent)

/-- The number nearest to a power of ten. -/
def powerOfTen (k : Int) : Extended :=
  let num := Nat.pow 10 k.toNat
  let den := Nat.pow 10 (-k).toNat
  let e := Binary64.floorLog2 num den - 63
  ⟨Binary64.halfEven (num * Nat.pow 2 (-e).toNat) (den * Nat.pow 2 e.toNat), e⟩

/-- A number multiplied by another one several times. -/
def mulTimes (x y : Extended) : Nat → Extended
  | 0 => x
  | n + 1 => mulTimes (x.mul y) y n

/-- A number times a power of ten, in three kinds of steps. -/
def scaled (x : Extended) (k : Int) : Extended :=
  let n := k.natAbs
  let step := fun (size : Nat) => powerOfTen (if k < 0 then -size else size)
  ((x.mulTimes (step 100) (n / 100)).mulTimes (step 10) (n % 100 / 10)).mulTimes (step 1) (n % 10)

def le (x y : Extended) : Bool :=
  let e := min x.exponent y.exponent
  x.mantissa * Nat.pow 2 (x.exponent - e).toNat ≤ y.mantissa * Nat.pow 2 (y.exponent - e).toNat

def floor (x : Extended) : Nat :=
  x.mantissa * Nat.pow 2 x.exponent.toNat / Nat.pow 2 (-x.exponent).toNat

/-- The size of a double. -/
def ofBinary64 (x : Binary64) : Extended := ⟨x.mantissa, x.exponent⟩

/-- The nearest double, or nothing above the greatest one. -/
def toBinary64? (negative : Bool) (x : Extended) : Option Binary64 :=
  if x.le ⟨Nat.pow 2 53 - 1, 971⟩ then
    Binary64.round? negative (x.mantissa * Nat.pow 2 x.exponent.toNat)
      (Nat.pow 2 (-x.exponent).toNat)
  else none

end Extended

end NameQuery
