import NameQuery.Proofs.Number.Rational
import NameQuery.Value

/-!
# Values that match

A bind value and a stored one are the same if both are null, one truth value, one text or one number
(`Value.SameAs`). A bind value agrees with every stored value that is the same. What it agrees with besides
are numbers that are not the same, but that one double is nearest to (`Value.BlursWith`): a whole number
is rounded before it is compared with a double, and a signed whole number also before it is compared with
one beyond the signed ones. So agreement is the equality of numbers as long as whole numbers are at most
2⁵³ in size (`Value.agrees_iff_sameAs_iff`), and not beyond (`Value.greatest_int_agrees_with_next`).
-/

set_option autoImplicit false

namespace NameQuery.Value

/-! ## Equality -/

/-- A bind value is what a stored value is: null, the same truth value, text or number. -/
inductive SameAs : Value → Json → Prop
  | null : SameAs .null .null
  | bool (b : Bool) : SameAs (.bool b) (.bool b)
  | string (s : String) : SameAs (.string s) (.string s)
  | int {a : Int64} {n : Number} (same : (a.toInt : ℚ) = n.toRat) : SameAs (.int a) (.number n)
  | float {x : Binary64} {n : Number} (same : x.toRat = n.toRat) : SameAs (.float x) (.number n)

/-- A bind value and a stored one are different numbers that one double is nearest to, and not both of
them signed whole numbers of 64 bits. -/
inductive BlursWith : Value → Json → Prop
  /-- A signed whole number and one beyond the signed ones. -/
  | beyond {a : Int64} {n : Int} {inRange : Number.InRange n} (above : 2 ^ 63 ≤ n)
      (nearest : (Binary64.ofInt a.toInt).toRat = (Binary64.ofInt n).toRat) :
      BlursWith (.int a) (.number (.whole n inRange))
  /-- A bound whole number and a stored double. -/
  | bound {a : Int64} {x : Binary64} (different : (a.toInt : ℚ) ≠ x.toRat)
      (nearest : (Binary64.ofInt a.toInt).toRat = x.toRat) : BlursWith (.int a) (.number (.float x))
  /-- A bound double and a stored whole number. -/
  | stored {x : Binary64} {n : Int} {inRange : Number.InRange n} (different : x.toRat ≠ n)
      (nearest : (Binary64.ofInt n).toRat = x.toRat) : BlursWith (.float x) (.number (.whole n inRange))

/-! ## Numbers -/

theorem natAbs_toInt_lt (a : Int64) : a.toInt.natAbs < 2 ^ 64 := by
  have lower := a.le_toInt
  have upper := a.toInt_lt
  omega

/-- Signed whole numbers are compared as such, and others as doubles. -/
theorem agrees_whole_iff {a : Int64} {n : Int} {inRange : Number.InRange n} :
    (Value.int a).agrees (.number (.whole n inRange)) = true ↔
      a.toInt = n ∨ 2 ^ 63 ≤ n ∧ (Binary64.ofInt a.toInt).toRat = (Binary64.ofInt n).toRat := by
  by_cases signed : n < 9_223_372_036_854_775_808
  · have fits : (Int64.ofInt n).toInt = n := Int64.toInt_ofInt_of_le inRange.1 signed
    have compared : (Value.int a).agrees (.number (.whole n inRange)) = (a == Int64.ofInt n) := by
      simp only [agrees, Number.toInt64?, if_pos signed]
    rw [compared, beq_iff_eq, ← Int64.toInt_inj, fits]
    exact (or_iff_left fun h => absurd h.1 (by omega)).symm
  · have compared : (Value.int a).agrees (.number (.whole n inRange)) =
        (Binary64.ofInt n).same (Binary64.ofInt a.toInt) := by
      simp only [agrees, Number.toInt64?, if_neg signed, Number.toBinary64]
    have upper := a.toInt_lt
    rw [compared, Binary64.same_iff, or_iff_right (by omega), and_iff_right (by omega), eq_comm]

/-- A whole number agrees with the double that it is rounded to. -/
theorem agrees_float_iff {a : Int64} {x : Binary64} :
    (Value.int a).agrees (.number (.float x)) = true ↔ (Binary64.ofInt a.toInt).toRat = x.toRat := by
  have compared : (Value.int a).agrees (.number (.float x)) = x.same (Binary64.ofInt a.toInt) := rfl
  rw [compared, Binary64.same_iff, eq_comm]

/-- A double agrees with the numbers that are rounded to it. -/
theorem float_agrees_iff {x : Binary64} {n : Number} :
    (Value.float x).agrees (.number n) = true ↔ n.toBinary64.toRat = x.toRat :=
  Binary64.same_iff

variable {v : Value} {x : Json}

/-! ## What agrees -/

/-- What is the same agrees: a whole number that is a double is not rounded. -/
theorem SameAs.agrees (h : v.SameAs x) : v.agrees x = true := by
  cases h with
  | null => rfl
  | bool b => exact beq_self_eq_true b
  | string s => exact beq_self_eq_true s
  | @int a n same =>
    cases n with
    | whole n inRange => exact agrees_whole_iff.mpr (.inl (Int.cast_inj.mp same))
    | float y =>
      have unrounded := Binary64.toRat_ofInt (natAbs_toInt_lt a) same.symm
      exact agrees_float_iff.mpr (unrounded.trans same)
  | @float y n same =>
    cases n with
    | whole n inRange =>
      have unrounded := Binary64.toRat_ofInt (Number.natAbs_lt inRange) same
      exact float_agrees_iff.mpr (unrounded.trans same.symm)
    | float z => exact float_agrees_iff.mpr same.symm

/-- Values that blur agree. -/
theorem BlursWith.agrees (h : v.BlursWith x) : v.agrees x = true := by
  cases h with
  | beyond above nearest => exact agrees_whole_iff.mpr (.inr ⟨above, nearest⟩)
  | bound different nearest => exact agrees_float_iff.mpr nearest
  | stored different nearest => exact float_agrees_iff.mpr nearest

/-- Values that blur are not the same. -/
theorem BlursWith.not_sameAs (h : v.BlursWith x) : ¬ v.SameAs x := by
  intro same
  cases h with
  | @beyond a n inRange above nearest =>
    cases same with
    | int same =>
      have upper := a.toInt_lt
      have equal : a.toInt = n := Int.cast_inj.mp same
      omega
  | bound different nearest =>
    cases same with
    | int same => exact different same
  | stored different nearest =>
    cases same with
    | float same => exact different same

/-- Only what is the same, or blurred with it, agrees. -/
theorem sameAs_or_blursWith_of_agrees (h : v.agrees x = true) : v.SameAs x ∨ v.BlursWith x := by
  cases v <;> cases x
  case null.null => exact .inl .null
  case bool.bool a b =>
    obtain rfl : a = b := eq_of_beq h
    exact .inl (.bool a)
  case string.string a b =>
    obtain rfl : a = b := eq_of_beq h
    exact .inl (.string a)
  case int.number a n =>
    cases n with
    | whole n inRange =>
      rcases agrees_whole_iff.mp h with same | ⟨above, nearest⟩
      · exact .inl (.int (Int.cast_inj.mpr same))
      · exact .inr (.beyond above nearest)
    | float y =>
      have nearest := agrees_float_iff.mp h
      by_cases same : (a.toInt : ℚ) = y.toRat
      · exact .inl (.int same)
      · exact .inr (.bound same nearest)
  case float.number y n =>
    have nearest := float_agrees_iff.mp h
    cases n with
    | whole n inRange =>
      by_cases same : y.toRat = n
      · exact .inl (.float same)
      · exact .inr (.stored same nearest)
    | float z => exact .inl (.float nearest.symm)
  -- values of two kinds
  all_goals exact absurd h Bool.false_ne_true

/-- Numbers are blurred only where one of them is a whole number above 2⁵³ in size. -/
theorem BlursWith.exists_large (h : v.BlursWith x) :
    (∃ a, v = .int a ∧ 2 ^ 53 < a.toInt.natAbs) ∨
      ∃ n inRange, x = .number (.whole n inRange) ∧ 2 ^ 53 < n.natAbs := by
  cases h with
  | @beyond a n inRange above nearest => exact .inr ⟨n, inRange, rfl, by omega⟩
  | @bound a y different nearest =>
    refine .inl ⟨a, rfl, Nat.lt_of_not_le fun small => different ?_⟩
    rw [← nearest, Binary64.toRat_ofInt_of_le small]
  | @stored y n inRange different nearest =>
    refine .inr ⟨n, inRange, rfl, Nat.lt_of_not_le fun small => different ?_⟩
    rw [← nearest, Binary64.toRat_ofInt_of_le small]

/-- **When agreement is equality.** A bind value agrees with every stored value that is the same. It agrees
with no other one exactly if the two are not blurred, and only a whole number above 2⁵³ in size can be
blurred with another number. -/
theorem agrees_iff_sameAs_iff (v : Value) (x : Json) :
    (v.SameAs x → v.agrees x = true) ∧
    ((v.agrees x = true ↔ v.SameAs x) ↔ ¬ v.BlursWith x) ∧
    (v.BlursWith x → (∃ a, v = .int a ∧ 2 ^ 53 < a.toInt.natAbs) ∨
      ∃ n inRange, x = .number (.whole n inRange) ∧ 2 ^ 53 < n.natAbs) := by
  refine ⟨SameAs.agrees, ?_, BlursWith.exists_large⟩
  constructor
  · intro equality blurs
    exact blurs.not_sameAs (equality.mp blurs.agrees)
  · intro clear
    exact ⟨fun agrees => (sameAs_or_blursWith_of_agrees agrees).resolve_right clear, SameAs.agrees⟩

/-- The greatest signed whole number and the next one, which is beyond them. -/
theorem blursWith_next (inRange : Number.InRange 9223372036854775808) :
    (Value.int 9223372036854775807).BlursWith (.number (.whole 9223372036854775808 inRange)) :=
  .beyond (by decide) (Binary64.same_iff.mp (by decide +kernel))

theorem agrees_iff_sameAs_iff_of_large_numbers :
    ∃ (inRange : Number.InRange 9223372036854775808) (twoTo53 : Binary64),
      (Value.int 9007199254740992).SameAs (.number (.float twoTo53)) ∧
      (Value.int 9007199254740992).agrees (.number (.float twoTo53)) = true ∧
      (Value.int 9223372036854775807).BlursWith (.number (.whole 9223372036854775808 inRange)) ∧
      2 ^ 53 < (9223372036854775807 : Int64).toInt.natAbs := by
  have inRange : Number.InRange 9223372036854775808 := by decide
  let twoTo53 : Binary64 := ⟨false, 4503599627370496, 1, by decide⟩
  have same : (Value.int 9007199254740992).SameAs (.number (.float twoTo53)) := by
    refine .int ?_
    show (9007199254740992 : ℚ) = (if false = true then -1 else 1) * (4503599627370496 : Nat) * 2 ^ (1 : ℤ)
    norm_num
  have blurs := blursWith_next inRange
  refine ⟨inRange, twoTo53, same, (agrees_iff_sameAs_iff _ _).1 same, blurs, ?_⟩
  rcases (agrees_iff_sameAs_iff _ _).2.2 blurs with ⟨a, same, large⟩ | ⟨n, _, same, large⟩
  · cases same
    exact large
  · decide

/-- The greatest signed whole number agrees with the next one. -/
theorem greatest_int_agrees_with_next :
    ∃ inRange : Number.InRange 9223372036854775808,
      (Value.int 9223372036854775807).agrees (.number (.whole 9223372036854775808 inRange)) = true ∧
      ¬ (Value.int 9223372036854775807).SameAs (.number (.whole 9223372036854775808 inRange)) :=
  ⟨by decide, (blursWith_next _).agrees, (blursWith_next _).not_sameAs⟩

end NameQuery.Value
