import NameQuery.Proofs.Number.Rational

/-!
# The nearest double

A double is nearest to a rational number if no double is nearer to it; where another number that is a double is
as near, the one with the even mantissa counts (`Binary64.IsNearest`). Rounding a quotient of natural numbers
finds something exactly below the limit half a step above the greatest double, and then it finds the one double
of its sign that is nearest (`Binary64.round?_eq_some_iff`).

A quotient is rounded on a grid, the multiples of a power of two that is chosen by the size of the quotient
(`Binary64.gridOf`). Not every double is on the grid, but one that is not is further away than what is taken
there (`Binary64.nearer_on_grid`).
-/

set_option autoImplicit false

namespace NameQuery.Binary64

/-! ## The nearest whole number -/

/-- The whole number that is taken is at most a half away, and even where it is a half away, everything being
counted in parts of the divisor. -/
theorem halfEven_error (num : Nat) {den : Nat} (positive : 0 < den) :
    2 * |(halfEven num den : ℤ) * den - num| ≤ den ∧
      (2 * |(halfEven num den : ℤ) * den - num| = den → Even (halfEven num den)) := by
  have split : (den : ℤ) * (num / den : Nat) + (num % den : Nat) = num := by
    exact_mod_cast Nat.div_add_mod num den
  have below := Nat.mod_lt num positive
  have down : ((num / den : Nat) : ℤ) * den - num = -(num % den : Nat) := by linarith
  have up : ((num / den + 1 : Nat) : ℤ) * den - num = den - (num % den : Nat) := by
    rw [Nat.cast_succ]
    linarith
  unfold halfEven
  dsimp only
  split_ifs with less more even
  · rw [down, abs_of_nonpos (by omega)]
    omega
  · rw [up, abs_of_nonneg (by omega)]
    omega
  · rw [down, abs_of_nonpos (by omega)]
    exact ⟨by omega, fun _ => Nat.even_iff.mpr even⟩
  · rw [up, abs_of_nonneg (by omega)]
    refine ⟨by omega, fun _ => ?_⟩
    rw [Nat.even_iff]
    omega

/-- Rounding moves a quotient by a half at most, and by a half only to an even number. -/
theorem halfEven_near (num : Nat) {den : Nat} (positive : 0 < den) :
    |(halfEven num den : ℚ) - num / den| ≤ 1 / 2 ∧
      (|(halfEven num den : ℚ) - num / den| = 1 / 2 → Even (halfEven num den)) := by
  obtain ⟨near, tie⟩ := halfEven_error num positive
  have size : (0 : ℚ) < den := Nat.cast_pos.mpr positive
  have scaled : |(halfEven num den : ℚ) - num / den| * den =
      ((|(halfEven num den : ℤ) * den - num| : ℤ) : ℚ) := by
    rw [Int.cast_abs, ← abs_of_pos size, ← abs_mul, abs_of_pos size, sub_mul,
      div_mul_cancel₀ _ size.ne']
    push_cast
    rfl
  have near' : 2 * ((|(halfEven num den : ℤ) * den - num| : ℤ) : ℚ) ≤ den := by exact_mod_cast near
  constructor
  · rw [← mul_le_mul_iff_of_pos_right size, scaled]
    linarith
  · intro half
    rw [half] at scaled
    have : 2 * ((|(halfEven num den : ℤ) * den - num| : ℤ) : ℚ) = den := by linarith
    exact tie (by exact_mod_cast this)

/-! ## Powers of two -/

/-- A power as the quotient by which it is written here. -/
theorem zpow_eq_div {b : Nat} (hb : b ≠ 0) (e : ℤ) : (b : ℚ) ^ e = (b ^ e.toNat : Nat) / (b ^ (-e).toNat : Nat) := by
  push_cast
  rw [← zpow_natCast, ← zpow_natCast, ← zpow_sub₀ (Nat.cast_ne_zero.mpr hb)]
  congr 1
  omega

/-- A quotient in multiples of a power of two. -/
theorem scaled_quotient (num den : Nat) (e : ℤ) :
    ((num * 2 ^ (-e).toNat : Nat) : ℚ) / (den * 2 ^ e.toNat : Nat) = num / den / 2 ^ e := by
  have power := zpow_eq_div two_ne_zero e
  push_cast at power ⊢
  rw [power]
  field_simp

/-- A quotient is compared with a power of two by multiplying crosswise. -/
theorem two_zpow_le_iff {num den : Nat} (hd : den ≠ 0) (k : ℤ) :
    (2 : ℚ) ^ k ≤ num / den ↔ den * Nat.pow 2 k.toNat ≤ num * Nat.pow 2 (-k).toNat := by
  have size : (0 : ℚ) < den := Nat.cast_pos.mpr (Nat.pos_of_ne_zero hd)
  have power := zpow_eq_div two_ne_zero k
  rw [Nat.cast_ofNat] at power
  rw [power, div_le_div_iff₀ (Nat.cast_pos.mpr (Nat.two_pow_pos _)) size, ← Nat.cast_mul, ← Nat.cast_mul,
    Nat.cast_le, Nat.mul_comm den]
  rfl

/-- A number lies between two neighbouring powers of two. -/
theorem log2_bounds {n : Nat} (h : n ≠ 0) : (2 : ℚ) ^ (n.log2 : ℤ) ≤ n ∧ (n : ℚ) < 2 ^ (n.log2 + 1 : ℤ) := by
  have upper := Nat.lt_log2_self (n := n)
  constructor
  · rw [zpow_natCast]
    exact_mod_cast Nat.log2_self_le h
  · exact_mod_cast upper

/-- The power of two that a quotient opens with. -/
theorem floorLog2_bounds {num den : Nat} (hn : num ≠ 0) (hd : den ≠ 0) :
    (2 : ℚ) ^ floorLog2 num den ≤ num / den ∧ (num / den : ℚ) < 2 ^ (floorLog2 num den + 1) := by
  have size : (0 : ℚ) < den := Nat.cast_pos.mpr (Nat.pos_of_ne_zero hd)
  have lower : (2 : ℚ) ^ ((num.log2 : ℤ) - den.log2 - 1) ≤ num / den := by
    rw [le_div_iff₀ size]
    calc
      (2 : ℚ) ^ ((num.log2 : ℤ) - den.log2 - 1) * den
          ≤ 2 ^ ((num.log2 : ℤ) - den.log2 - 1) * 2 ^ (den.log2 + 1 : ℤ) :=
        mul_le_mul_of_nonneg_left (log2_bounds hd).2.le (zpow_nonneg two_pos.le _)
      _ = 2 ^ (num.log2 : ℤ) := by rw [← zpow_add₀ two_ne_zero]; congr 1; ring
      _ ≤ num := (log2_bounds hn).1
  have upper : (num / den : ℚ) < 2 ^ ((num.log2 : ℤ) - den.log2 + 1) := by
    rw [div_lt_iff₀ size]
    calc
      (num : ℚ) < 2 ^ (num.log2 + 1 : ℤ) := (log2_bounds hn).2
      _ = 2 ^ ((num.log2 : ℤ) - den.log2 + 1) * 2 ^ (den.log2 : ℤ) := by
        rw [← zpow_add₀ two_ne_zero]; congr 1; ring
      _ ≤ 2 ^ ((num.log2 : ℤ) - den.log2 + 1) * den :=
        mul_le_mul_of_nonneg_left (log2_bounds hd).1 (zpow_nonneg two_pos.le _)
  unfold floorLog2
  dsimp only
  split_ifs with fits
  · exact ⟨(two_zpow_le_iff hd _).mpr fits, upper⟩
  · refine ⟨lower, ?_⟩
    rw [sub_add_cancel]
    exact lt_of_not_ge fun h => fits ((two_zpow_le_iff hd _).mp h)

/-! ## Doubles on a grid -/

/-- The whole number nearest to a number is at most as far away as any other one; where another one is as far
away, one of the two is odd. -/
theorem nearest_whole {m z : ℤ} {q : ℚ} (near : |m - q| ≤ 1 / 2) (ne : z ≠ m) :
    |m - q| < |z - q| ∨ |m - q| = |z - q| ∧ |m - q| = 1 / 2 ∧ (Even m → ¬ Even z) := by
  have apart : (1 : ℚ) ≤ |(z : ℚ) - m| := by
    exact_mod_cast Int.one_le_abs (sub_ne_zero.mpr ne)
  have triangle : |(z : ℚ) - m| ≤ |z - q| + |m - q| := by
    have := abs_sub_le (z : ℚ) q m
    rwa [abs_sub_comm q] at this
  rcases lt_or_ge |m - q| |z - q| with less | same
  · exact .inl less
  · have half : |m - q| = 1 / 2 := by linarith
    refine .inr ⟨by linarith, half, fun even odd => ?_⟩
    have one : |(z : ℚ) - m| = 1 := by linarith
    have one' : |z - m| = 1 := by exact_mod_cast one
    obtain ⟨k, hk⟩ := odd.sub even
    rcases abs_eq (by norm_num) |>.mp one' with h | h <;> omega

/-- A double whose exponent is not below that of a grid is on the grid. Its multiple is even if its mantissa is. -/
theorem exists_multiple {x : Binary64} {e : ℤ} (h : e ≤ x.exponent) :
    ∃ z : ℤ, x.toRat = z * 2 ^ e ∧ (Even x.mantissa → Even z) := by
  obtain ⟨k, hk⟩ := Int.eq_ofNat_of_zero_le (sub_nonneg.mpr h)
  have power : (2 : ℚ) ^ x.exponent = 2 ^ k * 2 ^ e := by
    rw [← zpow_natCast, ← zpow_add₀ two_ne_zero]
    congr 1
    omega
  refine ⟨(if x.negative then -1 else 1) * x.mantissa * 2 ^ k, ?_, fun even => ?_⟩
  · rw [toRat, power]
    push_cast
    ring
  · exact (((Int.even_coe_nat _).mpr even).mul_left _).mul_right _

/-- A double whose exponent is below that of a grid is small. -/
theorem toRat_lt_of_exponent_lt {x : Binary64} {e : ℤ} (h : x.exponent < e) : x.toRat < 2 ^ 52 * 2 ^ e := by
  have mantissa : (x.mantissa : ℚ) < 2 ^ 53 := by exact_mod_cast x.canonical.1
  have step : (2 : ℚ) ^ x.exponent ≤ 2 ^ (e - 1) := zpow_le_zpow_right₀ one_le_two (by omega)
  calc
    x.toRat ≤ x.mantissa * 2 ^ x.exponent := by
      have size : (0 : ℚ) ≤ x.mantissa * 2 ^ x.exponent := by positivity
      rw [toRat]
      split <;> linarith
    _ < 2 ^ 53 * 2 ^ x.exponent := by gcongr
    _ ≤ 2 ^ 53 * 2 ^ (e - 1) := by gcongr
    _ = 2 ^ 52 * 2 ^ e := by rw [zpow_sub_one₀ two_ne_zero]; ring

/-- What is taken on a grid is at least as near as every double, and nearer unless the double is on the grid and
has an odd mantissa. -/
theorem nearer_on_grid {r : ℚ} {e : ℤ} {m : Nat} (large : -1074 < e → 2 ^ 52 * 2 ^ e ≤ r)
    (near : |(m : ℚ) - r / 2 ^ e| ≤ 1 / 2) (tie : |(m : ℚ) - r / 2 ^ e| = 1 / 2 → Even m) (y : Binary64) :
    y.toRat = m * 2 ^ e ∨ |m * 2 ^ e - r| < |y.toRat - r| ∨
      |m * 2 ^ e - r| = |y.toRat - r| ∧ Even m ∧ ¬ Even y.mantissa := by
  have unit : (0 : ℚ) < 2 ^ e := zpow_pos two_pos e
  have scaled : ∀ a : ℚ, |a * 2 ^ e - r| = |a - r / 2 ^ e| * 2 ^ e := by
    intro a
    rw [← abs_of_pos unit, ← abs_mul, abs_of_pos unit, sub_mul, div_mul_cancel₀ _ unit.ne']
  rcases le_or_gt e y.exponent with on | off
  · obtain ⟨z, value, parity⟩ := exists_multiple on
    rcases eq_or_ne z m with rfl | ne
    · exact .inl value
    rw [value, scaled, scaled]
    rcases nearest_whole near ne with less | ⟨same, half, odd⟩
    · exact .inr (.inl (mul_lt_mul_of_pos_right less unit))
    · refine .inr (.inr ⟨by rw [← same]; rfl, tie half, fun even => ?_⟩)
      exact odd ((Int.even_coe_nat _).mpr (tie half)) (parity even)
  · -- off the grid a double is below the least number of 53 bits, which is on the grid
    have least : 2 ^ 52 * 2 ^ e ≤ r := large (by have := y.canonical.2.1; omega)
    have below := toRat_lt_of_exponent_lt off
    refine .inr (.inl (lt_of_le_of_lt (b := |2 ^ 52 * 2 ^ e - r|) ?_ ?_))
    · rw [scaled, scaled]
      refine mul_le_mul_of_nonneg_right ?_ unit.le
      rcases eq_or_ne ((2 ^ 52 : ℕ) : ℤ) m with same | ne
      · have : (m : ℚ) = 2 ^ 52 := by exact_mod_cast same.symm
        rw [this]
      · have := nearest_whole (m := m) (q := r / 2 ^ e) near ne
        push_cast at this
        rcases this with less | ⟨same, -⟩
        · exact less.le
        · exact same.le
    · rw [abs_of_nonpos (by linarith), abs_of_nonpos (by linarith)]
      linarith

/-! ## The nearest double -/

/-- A double is nearest to a number if no double is nearer, and if its mantissa is even where another number that
is a double is as near. -/
structure IsNearest (x : Binary64) (q : ℚ) : Prop where
  near : ∀ y : Binary64, |x.toRat - q| ≤ |y.toRat - q|
  even : ∀ y : Binary64, |x.toRat - q| = |y.toRat - q| → y.toRat = x.toRat ∨ Even x.mantissa

/-- Half a step above the greatest double. From there on a number is rounded beyond the doubles. -/
def limit : ℚ := (2 ^ 53 - 1 / 2) * 2 ^ (971 : ℤ)

/-- The limit lies between the powers of two around the largest double. -/
theorem limit_bounds : 2 ^ 53 * 2 ^ (970 : ℤ) ≤ limit ∧ limit ≤ 2 ^ 52 * 2 ^ (972 : ℤ) := by
  have unit : (0 : ℚ) < 2 ^ (970 : ℤ) := zpow_pos two_pos _
  have next : (2 : ℚ) ^ (971 : ℤ) = 2 ^ (970 : ℤ) * 2 := zpow_add_one₀ two_ne_zero 970
  have last : (2 : ℚ) ^ (972 : ℤ) = 2 ^ (971 : ℤ) * 2 := zpow_add_one₀ two_ne_zero 971
  rw [limit, last, next]
  generalize (2 : ℚ) ^ (970 : ℤ) = u at unit
  constructor <;> linarith

theorem unit_lt_limit : unit < limit := by
  refine lt_of_lt_of_le ?_ limit_bounds.1
  calc
    unit < 1 := zpow_lt_one_of_neg₀ one_lt_two (by norm_num)
    _ ≤ 2 ^ 53 * 2 ^ (970 : ℤ) := one_le_mul_of_one_le_of_one_le (by norm_num) (one_le_zpow₀ one_le_two (by norm_num))

def withSign (negative : Bool) (q : ℚ) : ℚ := if negative then -q else q

theorem abs_withSign (negative : Bool) (q : ℚ) : |withSign negative q| = |q| := by
  rw [withSign]
  split
  · exact abs_neg q
  · rfl

/-- A double is its mantissa times a power of two, with its sign. -/
theorem toRat_eq_withSign (x : Binary64) : x.toRat = withSign x.negative (x.mantissa * 2 ^ x.exponent) := by
  rw [toRat, withSign]
  split <;> ring

theorem toRat_zero (negative : Bool) : (zero negative).toRat = 0 := by
  rw [toRat, zero, Nat.cast_zero, mul_zero, zero_mul]

theorem toRat_negated (x : Binary64) : x.negated.toRat = -x.toRat := by
  rw [toRat_eq_withSign, toRat_eq_withSign, negated, withSign, withSign]
  cases x.negative <;> simp

theorem negated_negated (x : Binary64) : x.negated.negated = x := by
  obtain ⟨negative, m, e, h⟩ := x
  simp [negated]

/-- Rounding to the nearest double commutes with the opposite sign. -/
theorem IsNearest.negated {x : Binary64} {q : ℚ} (h : x.IsNearest q) : x.negated.IsNearest (-q) := by
  have mirror : ∀ y : Binary64, |y.toRat - -q| = |y.negated.toRat - q| := by
    intro y
    rw [toRat_negated, ← abs_neg]
    congr 1
    ring
  constructor
  · intro y
    rw [mirror, mirror, negated_negated]
    exact h.near _
  · intro y same
    rw [mirror, mirror, negated_negated] at same
    rcases h.even _ same with value | even
    · left
      rw [toRat_negated, ← value, toRat_negated, neg_neg]
    · exact .inr even

/-- No double but zero is nearer to zero than the unit. -/
theorem unit_le_abs {x : Binary64} (h : x.toRat ≠ 0) : unit ≤ |x.toRat| := by
  have positive : 0 < unit := zpow_pos two_pos _
  rw [toRat_eq] at h ⊢
  rw [abs_mul, abs_of_pos positive]
  refine le_mul_of_one_le_left positive.le ?_
  exact_mod_cast Int.one_le_abs fun zero => h (by rw [zero, Int.cast_zero, zero_mul])

/-- Zero is nearest to what is at most half a unit away from it. -/
theorem isNearest_zero {negative : Bool} {q : ℚ} (h : 2 * |q| ≤ unit) : (zero negative).IsNearest q := by
  refine ⟨fun y => ?_, fun y _ => .inr Even.zero⟩
  rw [toRat_zero, zero_sub, abs_neg]
  rcases eq_or_ne y.toRat 0 with same | other
  · rw [same, zero_sub, abs_neg]
  · have := unit_le_abs other
    have := abs_sub_abs_le_abs_sub y.toRat q
    linarith

/-- A double is its sign and its number. -/
theorem eq_of_toRat {x y : Binary64} (sign : x.negative = y.negative) (value : x.toRat = y.toRat) : x = y := by
  have size : x.magnitude = y.magnitude := by
    rw [← natAbs_units, ← natAbs_units, toRat_inj.mp value]
  -- of two numbers with different exponents the one with the greater exponent is greater
  have exponents : ∀ a b : Binary64, a.magnitude = b.magnitude → ¬ a.exponent < b.exponent := by
    intro a b same less
    obtain ⟨small, leastA, -, -⟩ := a.canonical
    obtain ⟨-, -, -, full⟩ := b.canonical
    have bits : 2 ^ 52 ≤ b.mantissa := full.resolve_right (by omega)
    obtain ⟨k, hk⟩ := Int.eq_ofNat_of_zero_le (show 0 ≤ a.exponent + 1074 by omega)
    obtain ⟨d, hd⟩ := Int.eq_ofNat_of_zero_le (show 0 ≤ b.exponent - a.exponent - 1 by omega)
    rw [magnitude_eq a (show _ = k by omega), magnitude_eq b (show _ = k + d + 1 by omega)] at same
    have := calc
      a.mantissa * 2 ^ k < 2 ^ 53 * 2 ^ k := Nat.mul_lt_mul_of_pos_right small (Nat.two_pow_pos k)
      _ ≤ 2 ^ 53 * 2 ^ k * 2 ^ d := Nat.le_mul_of_pos_right _ (Nat.two_pow_pos d)
      _ = 2 ^ 52 * 2 ^ (k + d + 1) := by ring
      _ ≤ b.mantissa * 2 ^ (k + d + 1) := Nat.mul_le_mul_right _ bits
    omega
  have exponent : x.exponent = y.exponent := by
    have := exponents x y size
    have := exponents y x size.symm
    omega
  have mantissa : x.mantissa = y.mantissa := by
    rw [magnitude, magnitude, exponent] at size
    exact Nat.eq_of_mul_eq_mul_right (Nat.two_pow_pos _) size
  obtain ⟨_, _, _, _⟩ := x
  obtain ⟨_, _, _, _⟩ := y
  cases sign
  cases mantissa
  cases exponent
  rfl

/-! ## Rounding a quotient -/

/-- The exponent of the grid on which a quotient is rounded. -/
def gridOf (num den : Nat) : ℤ := max (floorLog2 num den - 52) (-1074)

/-- The multiple that is taken on the grid. -/
def taken (num den : Nat) : Nat :=
  halfEven (num * 2 ^ (-gridOf num den).toNat) (den * 2 ^ (gridOf num den).toNat)

/-- The mantissa that is taken is off by a half at most, and by a half only if it is even. -/
theorem taken_near (num : Nat) {den : Nat} (hd : den ≠ 0) :
    |(taken num den : ℚ) - num / den / 2 ^ gridOf num den| ≤ 1 / 2 ∧
      (|(taken num den : ℚ) - num / den / 2 ^ gridOf num den| = 1 / 2 → Even (taken num den)) := by
  rw [← scaled_quotient]
  exact halfEven_near _ (Nat.mul_pos (Nat.pos_of_ne_zero hd) (Nat.two_pow_pos _))

/-- A quotient is rounded to what is taken, which is written with one bit less where it has 54 bits. -/
theorem round?_eq_taken (negative : Bool) {num : Nat} (hn : num ≠ 0) (den : Nat) :
    round? negative num den =
      if taken num den = 2 ^ 53 then ofParts? negative (2 ^ 52) (gridOf num den + 1)
      else ofParts? negative (taken num den) (gridOf num den) := by
  rw [round?, if_neg hn]
  rfl

section

variable {num den : Nat} (hn : num ≠ 0) (hd : den ≠ 0)

include hn hd

/-- On its grid a quotient has at most 53 bits before the point. -/
theorem lt_on_grid : (num / den : ℚ) / 2 ^ gridOf num den < 2 ^ 53 := by
  rw [div_lt_iff₀ (zpow_pos two_pos _), ← zpow_natCast, ← zpow_add₀ two_ne_zero]
  refine lt_of_lt_of_le (floorLog2_bounds hn hd).2 (zpow_le_zpow_right₀ one_le_two ?_)
  rw [gridOf]
  omega

/-- On its grid a quotient has 53 bits before the point, but for the finest grid. -/
theorem le_on_grid (h : -1074 < gridOf num den) : (2 ^ 52 * 2 ^ gridOf num den : ℚ) ≤ num / den := by
  rw [← zpow_natCast, ← zpow_add₀ two_ne_zero]
  refine le_trans (zpow_le_zpow_right₀ one_le_two ?_) (floorLog2_bounds hn hd).1
  rw [gridOf] at h ⊢
  omega

/-- The multiple that is taken has at most 53 bits or is 2⁵³, and it has 53 bits unless the grid is the finest. -/
theorem taken_bounds : taken num den ≤ 2 ^ 53 ∧ (-1074 < gridOf num den → 2 ^ 52 ≤ taken num den) := by
  have near := abs_le.mp (taken_near num hd).1
  have above := lt_on_grid hn hd
  constructor
  · have : (taken num den : ℚ) < 2 ^ 53 + 1 := by linarith [near.2]
    have : taken num den < 2 ^ 53 + 1 := by exact_mod_cast this
    omega
  · intro h
    have below := (le_div_iff₀ (zpow_pos two_pos _)).mpr (le_on_grid hn hd h)
    have : (2 : ℚ) ^ 52 < taken num den + 1 := by linarith [near.1]
    have : 2 ^ 52 < taken num den + 1 := by exact_mod_cast this
    omega

/-- Below the limit a quotient is rounded to the multiple that is taken on its grid. -/
theorem exists_rounded (h : (num / den : ℚ) < limit) :
    ∃ x, round? false num den = some x ∧ x.negative = false ∧
      x.toRat = taken num den * 2 ^ gridOf num den ∧ (Even (taken num den) → Even x.mantissa) := by
  obtain ⟨near, tie⟩ := taken_near num hd
  obtain ⟨upper, lower⟩ := taken_bounds hn hd
  have least : -1074 ≤ gridOf num den := le_max_right _ _
  have unit : (0 : ℚ) < 2 ^ gridOf num den := zpow_pos two_pos _
  have fits : gridOf num den ≤ 971 := by
    by_contra large
    have := calc
      limit ≤ 2 ^ 52 * 2 ^ (972 : ℤ) := limit_bounds.2
      _ ≤ 2 ^ 52 * 2 ^ gridOf num den := by gcongr <;> first | exact one_le_two | omega
      _ ≤ num / den := le_on_grid hn hd (by omega)
    linarith
  rw [round?_eq_taken false hn]
  split_ifs with full
  · have room : gridOf num den ≠ 971 := by
      intro greatest
      rw [full, greatest] at near
      have below := (div_lt_iff₀ (zpow_pos two_pos _)).mpr h
      have half := (abs_le.mp near).2
      rw [Nat.cast_pow, Nat.cast_ofNat] at half
      linarith
    have canonical : Canonical (2 ^ 52) (gridOf num den + 1) :=
      ⟨by decide, by omega, by omega, .inl (Nat.le_refl _)⟩
    have even : Even (2 ^ 52) := by decide
    refine ⟨_, dif_pos canonical, rfl, ?_, fun _ => even⟩
    rw [toRat, full, zpow_add_one₀ two_ne_zero]
    push_cast
    ring
  · have canonical : Canonical (taken num den) (gridOf num den) := by
      refine ⟨lt_of_le_of_ne upper full, least, fits, ?_⟩
      rcases eq_or_lt_of_le least with same | above
      · exact .inr same.symm
      · exact .inl (lower above)
    refine ⟨_, dif_pos canonical, rfl, ?_, id⟩
    rw [toRat]
    simp

/-- From the limit on nothing is found. -/
theorem round?_eq_none (negative : Bool) (h : limit ≤ (num / den : ℚ)) : round? negative num den = none := by
  obtain ⟨near, tie⟩ := taken_near num hd
  obtain ⟨upper, lower⟩ := taken_bounds hn hd
  have high : 971 ≤ gridOf num den := by
    by_contra small
    have := calc
      (num / den : ℚ) < 2 ^ 53 * 2 ^ gridOf num den := by
        rw [← div_lt_iff₀ (zpow_pos two_pos _)]
        exact lt_on_grid hn hd
      _ ≤ 2 ^ 53 * 2 ^ (970 : ℤ) := by gcongr <;> first | exact one_le_two | omega
      _ ≤ limit := limit_bounds.1
    linarith
  rw [round?_eq_taken negative hn]
  split_ifs with full
  · refine dif_neg ?_
    rintro ⟨-, -, fits, -⟩
    omega
  · refine dif_neg ?_
    rintro ⟨-, -, fits, -⟩
    have greatest : gridOf num den = 971 := le_antisymm fits high
    have below : (taken num den : ℚ) ≤ 2 ^ 53 - 1 := by
      have : taken num den + 1 ≤ 2 ^ 53 := lt_of_le_of_ne upper full
      have : (taken num den + 1 : ℚ) ≤ 2 ^ 53 := by exact_mod_cast this
      linarith
    rw [limit, ← le_div_iff₀ (zpow_pos two_pos _)] at h
    rw [greatest] at near tie
    have half := (abs_le.mp near).1
    have odd : (taken num den : ℚ) = 2 ^ 53 - 1 := by linarith
    have even : Even (taken num den) := tie (by rw [abs_of_nonpos] <;> linarith)
    have : taken num den = 2 ^ 53 - 1 := by
      have : (taken num den + 1 : ℚ) = 2 ^ 53 := by linarith
      have : taken num den + 1 = 2 ^ 53 := by exact_mod_cast this
      omega
    rw [this] at even
    exact absurd even (by decide)

end

/-- A number below the limit has a nearest double, and each double that is nearest to it is that number. -/
theorem exists_nearest {num den : Nat} (hd : den ≠ 0) (h : (num / den : ℚ) < limit) :
    ∃ x, round? false num den = some x ∧ x.negative = false ∧ x.IsNearest (num / den) ∧
      ∀ y : Binary64, y.IsNearest (num / den) → y.toRat = x.toRat := by
  rcases eq_or_ne num 0 with rfl | hn
  · have nothing : ((0 : Nat) / den : ℚ) = 0 := by rw [Nat.cast_zero, zero_div]
    have tiny : 2 * |(0 : ℚ)| ≤ unit := by
      rw [abs_zero, mul_zero]
      exact zpow_nonneg two_pos.le _
    rw [nothing]
    refine ⟨zero false, rfl, rfl, isNearest_zero tiny, fun y nearest => ?_⟩
    have near := nearest.near (zero false)
    rw [toRat_zero, sub_zero, sub_zero, abs_zero] at near
    rw [toRat_zero]
    exact abs_eq_zero.mp (le_antisymm near (abs_nonneg _))
  obtain ⟨x, rounded, sign, value, parity⟩ := exists_rounded hn hd h
  obtain ⟨near, tie⟩ := taken_near num hd
  have nearer := nearer_on_grid (le_on_grid hn hd) near tie
  rw [← value] at nearer
  refine ⟨x, rounded, sign, ⟨fun y => ?_, fun y same => ?_⟩, fun y nearest => ?_⟩
  · rcases nearer y with same | less | ⟨same, -⟩
    · rw [same]
    · exact less.le
    · exact same.le
  · rcases nearer y with equal | less | ⟨-, even, -⟩
    · exact .inl equal
    · exact absurd same less.ne
    · exact .inr (parity even)
  · rcases nearer y with equal | less | ⟨same, -, odd⟩
    · exact equal
    · exact absurd less (nearest.near x).not_gt
    · exact ((nearest.even x same.symm).resolve_right odd).symm

/-- A quotient and its opposite are rounded to opposite doubles. -/
theorem round?_negated (num den : Nat) : round? true num den = (round? false num den).map negated := by
  have parts : ∀ m e, ofParts? true m e = (ofParts? false m e).map negated := by
    intro m e
    unfold ofParts?
    split <;> rfl
  unfold round?
  dsimp only
  split_ifs
  · rfl
  · exact parts _ _
  · exact parts _ _

/-- **A quotient is rounded to the nearest double.** A result is found exactly below the limit, and it is the
one double of its sign that is nearest to the quotient with that sign. -/
theorem round?_eq_some_iff {negative : Bool} {num den : Nat} (hd : den ≠ 0) {x : Binary64} :
    round? negative num den = some x ↔
      (num / den : ℚ) < limit ∧ x.negative = negative ∧ x.IsNearest (withSign negative (num / den)) := by
  rcases lt_or_ge (num / den : ℚ) limit with h | h
  · obtain ⟨y, rounded, sign, nearest, only⟩ := exists_nearest hd h
    cases negative with
    | false =>
      rw [rounded]
      constructor
      · rintro ⟨⟩
        exact ⟨h, sign, nearest⟩
      · rintro ⟨-, sign', nearest'⟩
        exact congrArg some (eq_of_toRat (sign.trans sign'.symm) (only x nearest').symm)
    | true =>
      rw [round?_negated, rounded]
      constructor
      · rintro ⟨⟩
        exact ⟨h, congrArg (!·) sign, nearest.negated⟩
      · rintro ⟨-, sign', nearest'⟩
        have mirrored : x.negated.IsNearest (num / den) := by
          have := nearest'.negated
          rwa [withSign, if_pos rfl, neg_neg] at this
        have same : y = x.negated :=
          eq_of_toRat (by rw [sign, negated, sign']; rfl) (only _ mirrored).symm
        rw [Option.map_some, same, negated_negated]
  · have hn : num ≠ 0 := by
      rintro rfl
      rw [Nat.cast_zero, zero_div] at h
      exact absurd h (not_le.mpr (lt_of_lt_of_le (by positivity) limit_bounds.1))
    rw [round?_eq_none hn hd negative h]
    exact ⟨nofun, fun found => absurd found.1 h.not_gt⟩

end NameQuery.Binary64
