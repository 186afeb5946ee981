import NameQuery.Json.Basic
import NameQuery.Proofs.Number.Whole

/-!
# Numbers as rational numbers

A finite double is a rational number (`Binary64.toRat`), and so is each number of JSON data
(`Number.toRat`). Two doubles are the same exactly if they are one rational number (`Binary64.same_iff`),
so the two zeros are.

A whole number that some double is equal to is not rounded: the double nearest to it is that number
(`Binary64.toRat_ofInt`). All whole numbers of at most 2⁵³ in size are such numbers, and above that those
that end in enough zero bits.
-/

set_option autoImplicit false

namespace NameQuery

namespace Binary64

def toRat (x : Binary64) : ℚ := (if x.negative then -1 else 1) * x.mantissa * 2 ^ x.exponent

/-- The unit that doubles are counted in. -/
def unit : ℚ := 2 ^ (-(1074 : Nat) : ℤ)

theorem unit_ne_zero : unit ≠ 0 := zpow_ne_zero _ two_ne_zero

/-- A double is its units. -/
theorem toRat_eq (x : Binary64) : x.toRat = x.units * unit := by
  obtain ⟨-, least, -⟩ := x.canonical
  obtain ⟨k, hk⟩ := Int.eq_ofNat_of_zero_le (show 0 ≤ x.exponent + 1074 by omega)
  have shifted : (2 : ℚ) ^ x.exponent = 2 ^ k * unit := by
    rw [unit, ← zpow_natCast, ← zpow_add₀ two_ne_zero]
    congr 1
    omega
  have size : x.magnitude = x.mantissa * 2 ^ k := magnitude_eq x (by omega)
  rw [toRat, shifted, units, size]
  cases x.negative <;> simp [mul_assoc]

/-- Doubles are the same number exactly if they are the same multiple of the unit. -/
theorem toRat_inj {x y : Binary64} : x.toRat = y.toRat ↔ x.units = y.units := by
  rw [toRat_eq, toRat_eq, mul_left_inj' unit_ne_zero, Int.cast_inj]

/-- Doubles are the same exactly if they are one rational number. -/
theorem same_iff {x y : Binary64} : x.same y = true ↔ x.toRat = y.toRat := by
  rw [same, beq_iff_eq, toRat_inj]

/-- The size of a double does not depend on its sign. -/
theorem natAbs_units (x : Binary64) : x.units.natAbs = x.magnitude := by
  rw [units]
  split
  · rw [Int.natAbs_neg, Int.natAbs_natCast]
  · rw [Int.natAbs_natCast]

/-- A double is a whole number exactly if its units are that number of ones. -/
theorem toRat_eq_intCast_iff {x : Binary64} {n : Int} :
    x.toRat = n ↔ x.units = n * Nat.pow 2 1074 := by
  rw [toRat_eq, unit]
  -- the power is a name, so that nothing computes it
  generalize 1074 = k
  have ones : (n : ℚ) = ((n * Nat.pow 2 k : Int) : ℚ) * 2 ^ (-(k : ℤ)) := by
    rw [Int.cast_mul, Int.cast_natCast, mul_assoc, Nat.pow_eq, Nat.cast_pow, Nat.cast_ofNat,
      ← zpow_natCast, ← zpow_add₀ two_ne_zero, add_neg_cancel, zpow_zero, mul_one]
  rw [ones, mul_left_inj' (zpow_ne_zero _ two_ne_zero), Int.cast_inj]

/-! ## Whole numbers that are doubles -/

/-- A number with 53 bits and zeros behind them is not rounded. -/
theorem nearest_eq_self_of_mul_eq {n m k unit : Nat} (small : m < 2 ^ 53)
    (h : n * 2 ^ unit = m * 2 ^ k) : nearest n = n := by
  apply nearest_eq_self_of_dvd
  rcases Nat.le_total k unit with fraction | whole
  · -- no bit stands behind the mantissa
    obtain ⟨d, rfl⟩ := Nat.exists_eq_add_of_le fraction
    have mantissa : n * 2 ^ d = m := by
      apply Nat.eq_of_mul_eq_mul_right (Nat.two_pow_pos k)
      rw [← h, Nat.mul_assoc, ← pow_add, Nat.add_comm]
    have le : n ≤ m := mantissa ▸ Nat.le_mul_of_pos_right n (Nat.two_pow_pos d)
    rcases Nat.eq_zero_or_pos n with rfl | positive
    · exact Nat.dvd_zero _
    · have bits := (Nat.log2_lt (Nat.ne_of_gt positive)).mpr (Nat.lt_of_le_of_lt le small)
      rw [show n.log2 - 52 = 0 by omega]
      exact one_dvd n
  · obtain ⟨d, rfl⟩ := Nat.exists_eq_add_of_le whole
    have number : n = m * 2 ^ d := by
      apply Nat.eq_of_mul_eq_mul_right (Nat.two_pow_pos unit)
      rw [h, Nat.mul_assoc, ← pow_add, Nat.add_comm]
    rcases Nat.eq_zero_or_pos n with rfl | positive
    · exact Nat.dvd_zero _
    · have below : n < 2 ^ (53 + d) := by
        rw [number, pow_add]
        exact Nat.mul_lt_mul_of_pos_right small (Nat.two_pow_pos d)
      have bits := (Nat.log2_lt (Nat.ne_of_gt positive)).mpr below
      exact (pow_dvd_pow 2 (by omega)).trans ⟨m, number.trans (Nat.mul_comm m _)⟩

/-- **A whole number that is a double is the double nearest to it.** -/
theorem toRat_ofInt {n : Int} (small : n.natAbs < 2 ^ 64) {x : Binary64} (h : x.toRat = n) :
    (ofInt n).toRat = n := by
  have size := congrArg Int.natAbs (toRat_eq_intCast_iff.mp h)
  rw [natAbs_units, Int.natAbs_mul, Int.natAbs_natCast] at size
  have unrounded : ∀ k, x.magnitude = n.natAbs * Nat.pow 2 k → nearest n.natAbs = n.natAbs := by
    intro k scaled
    rw [magnitude_eq x rfl, Nat.pow_eq] at scaled
    exact nearest_eq_self_of_mul_eq x.canonical.1 scaled.symm
  exact toRat_eq_intCast_iff.mpr (units_ofInt_of_nearest small (unrounded 1074 size))

/-- A whole number of at most 2⁵³ in size is the double nearest to it. -/
theorem toRat_ofInt_of_le {n : Int} (h : n.natAbs ≤ 2 ^ 53) : (ofInt n).toRat = n :=
  toRat_eq_intCast_iff.mpr (units_ofInt h)

end Binary64

/-! ## Numbers of JSON data -/

namespace Number

/-- A whole number of JSON data has at most 64 bits. -/
theorem natAbs_lt {n : Int} (h : InRange n) : n.natAbs < 2 ^ 64 := by
  obtain ⟨lower, upper⟩ := h
  omega

def toRat : Number → ℚ
  | .whole n _ => n
  | .float x => x.toRat

end Number

end NameQuery
