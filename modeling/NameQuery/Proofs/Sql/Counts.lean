import NameQuery.Proofs.Number.Decimals
import NameQuery.Sql.Plan

/-!
# Numbers that count rows

A number that is written in a statement counts rows if it is a whole number of 64 bits with a sign
(`Sql.count?_writtenNumber`). One that needs all 64 bits is read as a double, which is not below 2⁶³
either, so that nothing makes a whole number of it again (`Sql.count?_writtenNumber_of_lt`).
-/

set_option autoImplicit false

namespace NameQuery

/-! ## Doubles of 64 bits -/

namespace Binary64

/-- A number of 64 bits is not rounded below 2⁶³. -/
theorem le_units_round? {n : Nat} (lower : 2 ^ 63 ≤ n) (upper : n < 2 ^ 64) {x : Binary64}
    (rounded : round? false n 1 = some x) : (2 ^ 63 * Nat.pow 2 1074 : Nat) ≤ x.units := by
  have positive : n ≠ 0 := by omega
  have bits : n.log2 = 63 := (Nat.log2_eq_iff positive).mpr ⟨lower, upper⟩
  have kept : 2 ^ 63 ≤ nearest n := bits ▸ two_pow_log2_le_nearest positive
  obtain ⟨y, same, sign, size⟩ := magnitude_round? false upper
  cases rounded.symm.trans same
  rw [units, sign, if_neg Bool.false_ne_true, size]
  exact Int.ofNat_le.mpr (Nat.mul_le_mul_right _ kept)

end Binary64

namespace Sql

/-- What a number is read as that is written in a statement. -/
def writtenNumber (n : Nat) : Cell :=
  (Cell.numberOf? (String.ofList (Nat.toDigits 10 n))).getD .null

namespace Numeral

theorem isBlank_of_isDigit {c : Char} (h : c.isDigit = true) : isBlank c = false := by
  have digit : 48 ≤ c.toNat ∧ c.toNat ≤ 57 := Char.isDigit_iff_toNat.mp h
  have code : c = ' ' ↔ c.toNat = 32 := Char.toNat_inj.symm
  rw [isBlank, Bool.or_eq_false_iff, decide_eq_false_iff_not, code, Bool.and_eq_false_iff,
    decide_eq_false_iff_not, decide_eq_false_iff_not]
  omega

theorem dropWhile_isBlank {ds : List Char} (digits : ∀ c ∈ ds, c.isDigit = true) :
    ds.dropWhile isBlank = ds := by
  rw [List.dropWhile_eq_self_iff]
  intro some_ blank
  rw [isBlank_of_isDigit (digits _ (List.getElem_mem some_))] at blank
  cases blank

/-- Digits run to the end of a text that has nothing else. -/
theorem span_isDigit {ds : List Char} (digits : ∀ c ∈ ds, c.isDigit = true) :
    ds.span Char.isDigit = (ds, []) := by
  rw [List.span_eq_takeWhile_dropWhile, List.takeWhile_eq_self_iff.mpr digits,
    List.dropWhile_eq_nil_iff.mpr digits]

/-- The value of digits has no more places than there are digits. -/
theorem ofDigitChars_lt {ds : List Char} (digits : ∀ c ∈ ds, c.isDigit = true) :
    Nat.ofDigitChars 10 ds 0 < 10 ^ ds.length := by
  induction ds with
  | nil => decide
  | cons d ds ih =>
    rw [List.forall_mem_cons] at digits
    have rest := ih digits.2
    have digit : d.toNat - '0'.toNat ≤ 9 := Nat.sub_le_sub_right (Char.isDigit_iff_toNat.mp digits.1).2 _
    rw [Nat.ofDigitChars_cons, Nat.ofDigitChars_eq_ofDigitChars_zero, Nat.mul_zero, Nat.zero_add,
      List.length_cons]
    calc
      10 ^ ds.length * (d.toNat - '0'.toNat) + Nat.ofDigitChars 10 ds 0
          < 10 ^ ds.length * 9 + 10 ^ ds.length :=
        Nat.add_lt_add_of_le_of_lt (Nat.mul_le_mul_left _ digit) rest
      _ = 10 ^ (ds.length + 1) := by rw [Nat.pow_succ]; omega

/-- The digits that count make the number without its last digits, and without any only if the others
fill the significand. -/
theorem wholeDigits_eq {ds : List Char} (digits : ∀ c ∈ ds, c.isDigit = true) (s : Nat) :
    (wholeDigits s ds).1 = Nat.ofDigitChars 10 ds s / 10 ^ (wholeDigits s ds).2 ∧
      ((wholeDigits s ds).2 = 0 ∨ full ≤ (wholeDigits s ds).1) := by
  induction ds generalizing s with
  | nil => exact ⟨(Nat.div_one s).symm, .inl rfl⟩
  | cons d ds ih =>
    unfold wholeDigits
    split
    case isTrue enough =>
      refine ⟨?_, .inr enough⟩
      have passed := ofDigitChars_lt digits
      rw [Nat.ofDigitChars_eq_ofDigitChars_zero, Nat.add_comm,
        Nat.add_mul_div_left _ _ (Nat.pow_pos (by decide)), Nat.div_eq_of_lt passed, Nat.zero_add]
    case isFalse =>
      have digit : digitsValue [d] = d.toNat - '0'.toNat := Nat.zero_add _
      rw [Nat.ofDigitChars_cons, digit]
      exact ih (fun c hc => digits c (List.mem_cons_of_mem _ hc)) _

/-- Digits alone are a number as a whole. -/
theorem scan_of_isDigit {ds : List Char} (digits : ∀ c ∈ ds, c.isDigit = true) (ne : ds ≠ []) :
    scan ds = ⟨false, (wholeDigits 0 ds).1, (wholeDigits 0 ds).2, true, true⟩ := by
  have some_ : ds.isEmpty = false := by simpa using ne
  simp only [scan, dropWhile_isBlank digits, signed_of_isDigit digits, span_isDigit digits,
    fractionDigits, some_, List.all_nil, Bool.false_and, Bool.not_false, Bool.and_self, Int.zero_add]
  rw [Int.natCast_zero, Int.sub_zero]

end Numeral

/-! ## Written numbers -/

/-- The digits of a number are read as this number, where it has at most 64 bits. -/
theorem wholeOf?_toDigits (n : Nat) : wholeOf? (Nat.toDigits 10 n) = int64? n := by
  have digits : ∀ c ∈ Nat.toDigits 10 n, c.isDigit = true := fun c => isDigit_of_mem_toDigits
  have reversed : ∀ c ∈ (Nat.toDigits 10 n).reverse, c.isDigit = true :=
    fun c hc => digits c (List.mem_reverse.mp hc)
  rw [wholeOf?, Numeral.dropWhile_isBlank digits, Numeral.dropWhile_isBlank reversed, List.reverse_reverse,
    wholeNumber?_toDigits, Option.bind_some]

/-- A number of 64 bits with a sign is read as it is. -/
theorem writtenNumber_eq {n : Nat} (h : n ≤ 9_223_372_036_854_775_807) : writtenNumber n = .integer n := by
  have whole : int64? n = some (Int64.ofInt n) := if_pos (by omega)
  have value : (Int64.ofInt n).toInt = n := Int64.toInt_ofInt_of_le (by omega) (by omega)
  rw [writtenNumber, Cell.numberOf?, String.toList_ofList, wholeOf?_toDigits, whole]
  dsimp only
  rw [value]
  rfl

/-- A count that is written into a statement is read from it again. -/
theorem count?_writtenNumber {n : Nat} (h : n ≤ 9_223_372_036_854_775_807) :
    Plan.count? (writtenNumber n) = some (n : Int) := by
  rw [writtenNumber_eq h]
  rfl

/-- Of the digits of 64 bits at most the last one does not count. -/
theorem wholeDigits_toDigits {n : Nat} (upper : n < 2 ^ 64) :
    Numeral.wholeDigits 0 (Nat.toDigits 10 n) = (n, 0) ∨
      Numeral.wholeDigits 0 (Nat.toDigits 10 n) = (1_844_674_407_370_955_160, 1) ∨
      Numeral.wholeDigits 0 (Nat.toDigits 10 n) = (1_844_674_407_370_955_161, 1) := by
  have digits : ∀ c ∈ Nat.toDigits 10 n, c.isDigit = true := fun c => isDigit_of_mem_toDigits
  obtain ⟨significand, passed⟩ := Numeral.wholeDigits_eq digits 0
  rw [Nat.ofDigitChars_toDigits (by decide) (by decide)] at significand
  generalize Numeral.wholeDigits 0 (Nat.toDigits 10 n) = split at *
  obtain ⟨s, k⟩ := split
  dsimp only at significand passed
  rw [Numeral.full] at passed
  match k, significand, passed with
  | 0, significand, _ => exact .inl (by rw [significand, Nat.pow_zero, Nat.div_one])
  | 1, significand, passed =>
    right
    simp only [Prod.mk.injEq, and_true]
    omega
  | k + 2, significand, passed =>
    have fewer : n / 10 ^ (k + 2) ≤ n / 10 ^ 2 :=
      Nat.div_le_div_left (Nat.pow_le_pow_right (by decide) (by omega)) (by decide)
    omega

/-- The double of a number that needs all 64 bits is not below 2⁶³. -/
theorem le_units_double? {n : Nat} (lower : 2 ^ 63 ≤ n) (upper : n < 2 ^ 64) {x : Binary64}
    (read : (Numeral.scan (Nat.toDigits 10 n)).double? = some x) :
    (2 ^ 63 * Nat.pow 2 1074 : Nat) ≤ x.units := by
  rw [Numeral.scan_of_isDigit (fun c => isDigit_of_mem_toDigits) Nat.toDigits_ne_nil] at read
  rcases wholeDigits_toDigits upper with digits | digits | digits <;> rw [digits] at read
  case inl =>
    have positive : n ≠ 0 := by omega
    have nearest : ((Extended.mk n 0).scaled 0).toBinary64? false = some x := by
      simpa [Numeral.double?, positive, Numeral.reduced] using read
    have unscaled : (Extended.mk n 0).scaled 0 = Extended.mk n 0 := rfl
    rw [unscaled] at nearest
    rw [Extended.toBinary64?] at nearest
    split at nearest
    case isTrue => exact Binary64.le_units_round? lower upper (by simpa using nearest)
    case isFalse => cases nearest
  -- both are rounded to 2⁶⁴
  all_goals
    have power : x = ⟨false, 2 ^ 52, 12, by decide⟩ :=
      Option.some.inj (read.symm.trans (by decide +kernel))
    rw [power]
    decide +kernel

/-- A number that needs all 64 bits counts no rows. -/
theorem count?_writtenNumber_of_lt {n : Nat} (lower : 9_223_372_036_854_775_807 < n)
    (upper : n < 2 ^ 64) : Plan.count? (writtenNumber n) = none := by
  have long : int64? n = none := if_neg (by omega)
  have digits : ∀ c ∈ Nat.toDigits 10 n, c.isDigit = true := fun c => isDigit_of_mem_toDigits
  have complete : (Numeral.scan (Nat.toDigits 10 n)).complete = true := by
    rw [Numeral.scan_of_isDigit digits Nat.toDigits_ne_nil]
  have cell : writtenNumber n = Cell.ofNumeral (Numeral.scan (Nat.toDigits 10 n)) := by
    rw [writtenNumber, Cell.numberOf?, String.toList_ofList, wholeOf?_toDigits, long]
    dsimp only
    rw [if_pos complete]
    rfl
  rw [cell, Cell.ofNumeral]
  cases read : (Numeral.scan (Nat.toDigits 10 n)).double? with
  | none => rfl
  | some x =>
    have size : (2 ^ 63 * Nat.pow 2 1074 : Nat) ≤ x.units := le_units_double? (by omega) upper read
    have stays : Cell.asWhole x = .real x := by
      have power : ∀ k, 0 < Nat.pow 2 k := fun k => Nat.two_pow_pos k
      have quotient : (2 ^ 63 : Int) ≤ x.units / Nat.pow 2 1074 :=
        Int.le_ediv_of_mul_le (Int.natCast_pos.mpr (power 1074)) (by rwa [Int.natCast_mul] at size)
      rw [Cell.asWhole, Binary64.toInt?]
      split
      case h_1 m whole =>
        split at whole
        · cases whole
          exact if_neg (by omega)
        · cases whole
      case h_2 => rfl
    have stored : Affinity.numeric.store (.real x) = .real x := stays
    rw [Plan.count?]
    dsimp only
    rw [stored]

/-- Of two written numbers of which one needs all 64 bits, no page can be made. -/
theorem paged?_writtenNumber {limit offset : Nat} (positive : limit ≠ 0)
    (large : 9_223_372_036_854_775_807 < max limit offset) (hl : limit < 2 ^ 64) (ho : offset < 2 ^ 64)
    (rows : List (List Cell)) :
    Plan.paged? (writtenNumber limit) (if offset = 0 then none else some (writtenNumber offset)) rows =
      none := by
  by_cases whole : limit ≤ 9_223_372_036_854_775_807
  · have passes : offset ≠ 0 := by omega
    have some_ : (limit : Int) ≠ 0 := Int.natCast_ne_zero.mpr positive
    rw [Plan.paged?, count?_writtenNumber whole, if_neg passes]
    dsimp only
    rw [count?_writtenNumber_of_lt (by omega) ho]
    show (if (limit : Int) = 0 then _ else _) = _
    rw [if_neg some_]
    rfl
  · rw [Plan.paged?, count?_writtenNumber_of_lt (Nat.lt_of_not_le whole) hl]
    rfl

end Sql

end NameQuery
