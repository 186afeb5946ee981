import Mathlib
import NameQuery.Number.Binary64

/-!
# Whole numbers as doubles

The double nearest to a whole number of at most 64 bits is that number with all but its first 53 bits
rounded off (`Binary64.nearest`, `Binary64.units_ofInt_eq`). Rounding keeps the order of whole numbers,
though not their differences (`Binary64.units_ofInt_le`).

A whole number of at most 2⁵³ in size is a double: the nearest double to it is the number itself
(`Binary64.units_ofInt`), so such numbers are equal and in order as doubles exactly as they are as
whole numbers.
-/

set_option autoImplicit false

namespace NameQuery.Binary64

/-! ## Halves to even -/

theorem le_halfEven (num den : Nat) : num / den ≤ halfEven num den := by
  unfold halfEven
  dsimp only
  split_ifs <;> omega

theorem halfEven_le (num den : Nat) : halfEven num den ≤ num / den + 1 := by
  unfold halfEven
  dsimp only
  split_ifs <;> omega

theorem halfEven_one (n : Nat) : halfEven n 1 = n := by
  rw [halfEven]
  simp [Nat.mod_one]

theorem halfEven_mul {den : Nat} (q : Nat) (positive : 0 < den) : halfEven (den * q) den = q := by
  rw [halfEven]
  simp [Nat.mul_mod_right, Nat.mul_div_cancel_left q positive, positive]

/-- Rounding keeps the order of numerators. -/
theorem halfEven_mono {m n : Nat} (h : m ≤ n) (den : Nat) : halfEven m den ≤ halfEven n den := by
  rcases Nat.lt_or_eq_of_le (Nat.div_le_div_right h : m / den ≤ n / den) with lt | same
  · exact Nat.le_trans (halfEven_le m den) (Nat.le_trans lt (le_halfEven n den))
  · -- the quotients are equal, so the remainders are in order
    have rests : m % den ≤ n % den := by
      have hm := Nat.div_add_mod m den
      have hn := Nat.div_add_mod n den
      rw [same] at hm
      omega
    unfold halfEven
    dsimp only
    rw [same]
    split_ifs <;> omega

/-! ## The first 53 bits -/

/-- A whole number with all but its first 53 bits rounded off. -/
def nearest (n : Nat) : Nat := halfEven n (2 ^ (n.log2 - 52)) * 2 ^ (n.log2 - 52)

theorem nearest_zero : nearest 0 = 0 := rfl

/-- A whole number is not rounded below a power of two under it. -/
theorem two_pow_log2_le_nearest {n : Nat} (positive : n ≠ 0) : 2 ^ n.log2 ≤ nearest n := by
  have below : 2 ^ n.log2 ≤ n := Nat.log2_self_le positive
  have split : 2 ^ n.log2 = 2 ^ (n.log2 - (n.log2 - 52)) * 2 ^ (n.log2 - 52) := by
    rw [← pow_add]
    congr 1
    omega
  have whole : 2 ^ (n.log2 - (n.log2 - 52)) ≤ n / 2 ^ (n.log2 - 52) := by
    rw [Nat.le_div_iff_mul_le (Nat.two_pow_pos _), ← split]
    exact below
  rw [split]
  exact Nat.mul_le_mul_right _ (Nat.le_trans whole (le_halfEven _ _))

/-- A whole number is not rounded above the power of two over it. -/
theorem nearest_le_two_pow (n : Nat) : nearest n ≤ 2 ^ (n.log2 + 1) := by
  have above : n < 2 ^ (n.log2 + 1) := Nat.lt_log2_self
  have split : 2 ^ (n.log2 + 1) = 2 ^ (n.log2 + 1 - (n.log2 - 52)) * 2 ^ (n.log2 - 52) := by
    rw [← pow_add]
    congr 1
    omega
  have whole : n / 2 ^ (n.log2 - 52) < 2 ^ (n.log2 + 1 - (n.log2 - 52)) := by
    rw [Nat.div_lt_iff_lt_mul (Nat.two_pow_pos _), ← split]
    exact above
  rw [split]
  exact Nat.mul_le_mul_right _ (Nat.le_trans (halfEven_le _ _) whole)

/-- Rounding keeps the order: numbers with as many bits are rounded at the same place, and between
others there is a power of two, which is not rounded. -/
theorem nearest_mono {m n : Nat} (h : m ≤ n) : nearest m ≤ nearest n := by
  rcases Nat.eq_zero_or_pos m with rfl | positive
  · rw [nearest_zero]
    exact Nat.zero_le _
  have hm : m ≠ 0 := Nat.ne_of_gt positive
  have hn : n ≠ 0 := Nat.ne_of_gt (Nat.lt_of_lt_of_le positive h)
  have bits : m.log2 ≤ n.log2 := (Nat.le_log2 hn).mpr (Nat.le_trans (Nat.log2_self_le hm) h)
  rcases Nat.lt_or_eq_of_le bits with fewer | same
  · calc
      nearest m ≤ 2 ^ (m.log2 + 1) := nearest_le_two_pow m
      _ ≤ 2 ^ n.log2 := Nat.pow_le_pow_right (by decide) fewer
      _ ≤ nearest n := two_pow_log2_le_nearest hn
  · rw [nearest, nearest, same]
    exact Nat.mul_le_mul_right _ (halfEven_mono h _)

/-- A number with nothing but zeros behind its first 53 bits is not rounded. -/
theorem nearest_eq_self_of_dvd {n : Nat} (h : 2 ^ (n.log2 - 52) ∣ n) : nearest n = n := by
  rw [nearest]
  generalize 2 ^ (n.log2 - 52) = place at h
  obtain ⟨q, rfl⟩ := h
  rcases Nat.eq_zero_or_pos place with rfl | positive
  · simp
  · rw [halfEven_mul q positive, Nat.mul_comm]

/-- A number of at most 53 bits is not rounded. -/
theorem nearest_eq_self {n : Nat} (h : n ≤ 2 ^ 53) : nearest n = n := by
  apply nearest_eq_self_of_dvd
  rcases Nat.eq_or_lt_of_le h with rfl | below
  · decide +kernel
  · rcases Nat.eq_zero_or_pos n with rfl | positive
    · exact Nat.dvd_zero _
    · have bits := (Nat.log2_lt (Nat.ne_of_gt positive)).mpr below
      rw [show n.log2 - 52 = 0 by omega]
      exact Nat.one_dvd n

/-! ## Doubles -/

/-- The exponent of a whole number is its binary logarithm. -/
theorem floorLog2_one {n : Nat} (h : n ≠ 0) : floorLog2 n 1 = n.log2 := by
  have below : 2 ^ n.log2 ≤ n := Nat.log2_self_le h
  have one : Nat.log2 1 = 0 := rfl
  rw [floorLog2, one]
  simp only [Nat.pow_eq, Nat.cast_zero, sub_zero, Int.toNat_natCast, Int.toNat_neg_natCast, pow_zero,
    one_mul, mul_one]
  rw [if_pos below]

theorem magnitude_eq (x : Binary64) {k : Nat} (h : (x.exponent + 1074).toNat = k) :
    x.magnitude = x.mantissa * 2 ^ k := by
  rw [magnitude, h, Nat.pow_eq]

/-- The mantissa of a number: its first 53 bits, with zeros behind it if it has fewer. -/
def mantissaOf (n : Nat) : Nat := halfEven (n * 2 ^ (52 - n.log2)) (2 ^ (n.log2 - 52))

/-- The mantissa of a whole number is the number, rounded if it is too long and shifted if it is too
short. -/
theorem mantissaOf_eq (n : Nat) :
    mantissaOf n = halfEven n (2 ^ (n.log2 - 52)) * 2 ^ (52 - n.log2) := by
  rw [mantissaOf]
  rcases Nat.le_total n.log2 52 with few | many
  · rw [Nat.sub_eq_zero_of_le few, Nat.pow_zero, halfEven_one, halfEven_one]
  · rw [Nat.sub_eq_zero_of_le many, Nat.pow_zero, Nat.mul_one, Nat.mul_one]

/-- The mantissa of a whole number has 53 bits, or is the least number with 54. -/
theorem mantissaOf_bounds {n : Nat} (positive : n ≠ 0) :
    2 ^ 52 ≤ mantissaOf n ∧ mantissaOf n ≤ 2 ^ 53 := by
  have shift : ∀ b, 2 ^ (b + 52) * 2 ^ (n.log2 - 52) = 2 ^ (n.log2 + b) * 2 ^ (52 - n.log2) := by
    intro b
    rw [← pow_add, ← pow_add]
    congr 1
    omega
  constructor
  · refine Nat.le_trans ?_ (le_halfEven _ _)
    rw [Nat.le_div_iff_mul_le (Nat.two_pow_pos _)]
    exact (shift 0).trans_le (Nat.mul_le_mul_right _ (Nat.log2_self_le positive))
  · refine Nat.le_trans (halfEven_le _ _) (Nat.div_lt_of_lt_mul ?_)
    rw [Nat.mul_comm (2 ^ (n.log2 - 52))]
    refine Nat.lt_of_lt_of_eq ?_ (shift 1).symm
    exact Nat.mul_lt_mul_of_pos_right Nat.lt_log2_self (Nat.two_pow_pos _)

/-- The nearest double has the mantissa of the number, or half of it where rounding has made a bit
more. -/
theorem round?_eq (negative : Bool) {n : Nat} (positive : n ≠ 0) :
    round? negative n 1 =
      if mantissaOf n = 2 ^ 53 then ofParts? negative (2 ^ 52) (n.log2 - 52 + 1)
      else ofParts? negative (mantissaOf n) (n.log2 - 52) := by
  have exponent : max (floorLog2 n 1 - 52) (-1074) = (n.log2 - 52 : Int) := by
    rw [floorLog2_one positive]
    omega
  have up : (-(n.log2 - 52 : Int)).toNat = 52 - n.log2 := by omega
  have down : (n.log2 - 52 : Int).toNat = n.log2 - 52 := by omega
  rw [round?, if_neg positive]
  simp only [exponent, up, down, Nat.one_mul]
  rfl

/-- The size of the double nearest to a number of at most 64 bits, in units. -/
theorem magnitude_round? (negative : Bool) {n : Nat} (h : n < 2 ^ 64) :
    ∃ x, round? negative n 1 = some x ∧ x.negative = negative ∧
      x.magnitude = nearest n * Nat.pow 2 1074 := by
  -- the power is a name, so that nothing computes it
  obtain ⟨k, hk⟩ : ∃ k, k = 1074 := ⟨_, rfl⟩
  rw [← hk, Nat.pow_eq]
  rcases Nat.eq_zero_or_pos n with rfl | positive
  · refine ⟨zero negative, rfl, rfl, ?_⟩
    rw [magnitude, zero, nearest_zero, Nat.zero_mul, Nat.zero_mul]
  have ne : n ≠ 0 := Nat.ne_of_gt positive
  have bits : n.log2 < 64 := (Nat.log2_lt ne).mpr h
  obtain ⟨lower, upper⟩ := mantissaOf_bounds ne
  have size : ∀ {b : Nat}, 52 - n.log2 + b = n.log2 - 52 + k →
      mantissaOf n * 2 ^ b = nearest n * 2 ^ k := by
    intro b width
    rw [mantissaOf_eq, nearest, Nat.mul_assoc, ← pow_add, width, pow_add, ← Nat.mul_assoc]
  rw [round?_eq negative ne]
  split
  case isTrue full =>
    have canonical : Canonical (2 ^ 52) (n.log2 - 52 + 1) :=
      ⟨by decide, by omega, by omega, .inl (Nat.le_refl _)⟩
    have shift : (n.log2 - 52 + 1 + 1074 : Int).toNat = n.log2 + 1022 + 1 := by omega
    refine ⟨_, dif_pos canonical, rfl, ?_⟩
    rw [magnitude_eq _ shift, ← @size (n.log2 + 1022) (by omega), full]
    generalize n.log2 + 1022 = b
    show 2 ^ 52 * 2 ^ (b + 1) = 2 ^ 53 * 2 ^ b
    ring
  case isFalse room =>
    have canonical : Canonical (mantissaOf n) (n.log2 - 52) :=
      ⟨Nat.lt_of_le_of_ne upper room, by omega, by omega, .inl lower⟩
    have shift : (n.log2 - 52 + 1074 : Int).toNat = n.log2 + 1022 := by omega
    refine ⟨_, dif_pos canonical, rfl, ?_⟩
    rw [magnitude_eq _ shift]
    exact size (by omega)

/-- A whole number of at most 64 bits as a double. -/
theorem units_ofInt_eq {n : Int} (h : n.natAbs < 2 ^ 64) :
    (ofInt n).units = n.sign * (nearest n.natAbs * Nat.pow 2 1074 : Nat) := by
  obtain ⟨x, rounded, sign, size⟩ := magnitude_round? (n < 0) h
  have value : ofInt n = x := by
    rw [ofInt, ofInt?, rounded]
    rfl
  rw [value, units, sign, size]
  generalize Nat.pow 2 1074 = unit
  rcases lt_trichotomy n 0 with negative | rfl | positive
  · rw [if_pos (decide_eq_true negative), Int.sign_eq_neg_one_of_neg negative, Int.neg_one_mul]
  · rw [Int.natAbs_zero, nearest_zero, Nat.zero_mul]
    rfl
  · rw [if_neg (by simpa using Int.le_of_lt positive), Int.sign_eq_one_of_pos positive, Int.one_mul]

/-- Whole numbers that are in order are in order as doubles. -/
theorem units_ofInt_le {m n : Int} (hm : m.natAbs < 2 ^ 64) (hn : n.natAbs < 2 ^ 64) (h : m ≤ n) :
    (ofInt m).units ≤ (ofInt n).units := by
  have mono : ∀ {a b : Nat}, a ≤ b →
      ((nearest a * Nat.pow 2 1074 : Nat) : Int) ≤ (nearest b * Nat.pow 2 1074 : Nat) := by
    intro a b le
    exact Int.ofNat_le.mpr (Nat.mul_le_mul_right _ (nearest_mono le))
  rw [units_ofInt_eq hm, units_ofInt_eq hn]
  rcases Int.lt_or_le n 0 with negative | nonneg
  · rw [Int.sign_eq_neg_one_of_neg negative, Int.sign_eq_neg_one_of_neg (Int.lt_of_le_of_lt h negative),
      Int.neg_one_mul, Int.neg_one_mul, Int.neg_le_neg_iff]
    exact mono (by omega)
  rcases Int.lt_or_le 0 m with positive | nonpos
  · rw [Int.sign_eq_one_of_pos positive, Int.sign_eq_one_of_pos (Int.lt_of_lt_of_le positive h),
      Int.one_mul, Int.one_mul]
    exact mono (by omega)
  · -- zero is between the two
    have below := Int.mul_nonpos_of_nonpos_of_nonneg (Int.sign_nonpos_iff.mpr nonpos)
      (Int.natCast_nonneg (nearest m.natAbs * Nat.pow 2 1074))
    have above := Int.mul_nonneg (Int.sign_nonneg_iff.mpr nonneg)
      (Int.natCast_nonneg (nearest n.natAbs * Nat.pow 2 1074))
    exact Int.le_trans below above

/-! ## Numbers that are not rounded -/

/-- Whole numbers are in order as their units are. -/
theorem compare_mul_units (m n : Int) :
    compare (m * Nat.pow 2 1074) (n * Nat.pow 2 1074) = compare m n := by
  have positive : ∀ k, (0 : Int) < Nat.pow 2 k := fun k => Int.natCast_pos.mpr (Nat.two_pow_pos k)
  rw [← cmp_eq_compare, ← cmp_eq_compare]
  exact cmp_mul_pos_right (positive 1074) m n

/-- The nearest double to a whole number that is not rounded is that number. -/
theorem units_ofInt_of_nearest {n : Int} (small : n.natAbs < 2 ^ 64)
    (exact : nearest n.natAbs = n.natAbs) : (ofInt n).units = n * Nat.pow 2 1074 := by
  rw [units_ofInt_eq small, exact, Nat.cast_mul, ← Int.mul_assoc, Int.sign_mul_natAbs]

/-- The nearest double to a whole number of at most 2⁵³ in size is that number. -/
theorem units_ofInt {n : Int} (h : n.natAbs ≤ 2 ^ 53) : (ofInt n).units = n * Nat.pow 2 1074 :=
  units_ofInt_of_nearest (Nat.lt_of_le_of_lt h (by decide)) (nearest_eq_self h)

/-- Whole numbers that are doubles are in order as doubles as they are by themselves. -/
theorem order_ofInt {m n : Int} (hm : m.natAbs ≤ 2 ^ 53) (hn : n.natAbs ≤ 2 ^ 53) :
    (ofInt m).order (ofInt n) = compare m n := by
  rw [order, units_ofInt hm, units_ofInt hn]
  exact compare_mul_units m n

end NameQuery.Binary64
