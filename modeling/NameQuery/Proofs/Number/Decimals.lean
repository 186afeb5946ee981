import NameQuery.Number.Literal
import NameQuery.Proofs.Number.Rounding

/-!
# Texts of numbers

Which texts are read as numbers, and as which ones. The texts of whole numbers and of decimals are given by
their parts, with the number that they denote (`WholeText`, `DecimalText`): digits count by their places, and
nothing is said of how a text is gone through. Reading a whole number is exactly that relation
(`wholeNumber?_eq_some_iff`), and so is reading a decimal (`Decimal.ofText?_of_decimalText`,
`Decimal.decimalText_of_ofText?`).

A decimal becomes the nearest double, and none where it is not below the limit
(`Decimal.toBinary64?_eq_some_iff`). That very large and very small decimals are settled by the number of their
digits makes no difference (`Decimal.toBinary64?_eq`).
-/

set_option autoImplicit false

namespace NameQuery

/-! ## Digits -/

/-- The number that digits denote by their places. -/
def placeValue (ds : List Char) : Nat := Nat.ofDigits 10 (ds.reverse.map fun d => d.toNat - '0'.toNat)

/-- Reading digits one after the other gives their value by places. -/
theorem digitsValue_eq (ds : List Char) : digitsValue ds = placeValue ds := by
  induction ds using List.reverseRecOn with
  | nil => rfl
  | append_singleton ds d ih =>
    have step : digitsValue (ds ++ [d]) = 10 * digitsValue ds + (d.toNat - '0'.toNat) := by
      rw [digitsValue, List.foldl_append]
      rfl
    rw [step, ih, placeValue, placeValue, List.reverse_append, List.reverse_singleton, List.singleton_append,
      List.map_cons, Nat.ofDigits_cons, Nat.add_comm]

/-- Digits in front count for as many places more as there are digits behind them. -/
theorem placeValue_append (ds es : List Char) :
    placeValue (ds ++ es) = placeValue ds * 10 ^ es.length + placeValue es := by
  rw [placeValue, List.reverse_append, List.map_append, Nat.ofDigits_append, List.length_map, List.length_reverse,
    Nat.add_comm, Nat.mul_comm]
  rfl

/-- Digits of ASCII and nothing else. -/
def IsDigits (ds : List Char) : Prop := ∀ d ∈ ds, d.isDigit = true

/-- The digits of a number are read as this number. -/
theorem digitsValue_toDigits (n : Nat) : digitsValue (Nat.toDigits 10 n) = n := by
  rw [digitsValue, ← Nat.ofDigitChars_eq_foldl, Nat.ofDigitChars_toDigits (by decide) (by decide)]

theorem isDigit_of_mem_toDigits {n : Nat} {c : Char} (h : c ∈ Nat.toDigits 10 n) :
    c.isDigit = true :=
  Nat.isDigit_of_mem_toDigits (by decide) (by decide) h

/-! ## Texts -/

/-- A sign in front of digits, if there is one, and whether it is a minus. -/
inductive SignText : List Char → Bool → Prop
  | none : SignText [] false
  | plus : SignText ['+'] false
  | minus : SignText ['-'] true

/-- An optional sign and one or more digits, and the whole number that they denote. -/
inductive WholeText : List Char → ℤ → Prop
  | intro {sign ds : List Char} {negative : Bool} (hs : SignText sign negative) (hd : IsDigits ds) (hne : ds ≠ []) :
      WholeText (sign ++ ds) (if negative then -placeValue ds else placeValue ds)

/-- An optional point with digits behind it, and these digits. -/
inductive FractionText : List Char → List Char → Prop
  | none : FractionText [] []
  | point {ds : List Char} (hd : IsDigits ds) : FractionText ('.' :: ds) ds

/-- An optional exponent, and the power of ten that it says. -/
inductive ExponentText : List Char → ℤ → Prop
  | none : ExponentText [] 0
  | power {letter : Char} {cs : List Char} {e : ℤ} (hl : letter = 'e' ∨ letter = 'E') (he : WholeText cs e) :
      ExponentText (letter :: cs) e

/-- An optional sign, digits with an optional point and at least one digit beside it, and an optional exponent,
with the sign and the size of the number that they denote. -/
inductive DecimalText : List Char → Bool → ℚ → Prop
  | intro {sign whole point fraction power : List Char} {negative : Bool} {e : ℤ} (hs : SignText sign negative)
      (hw : IsDigits whole) (hf : FractionText point fraction) (hne : whole ≠ [] ∨ fraction ≠ [])
      (he : ExponentText power e) :
      DecimalText (sign ++ (whole ++ (point ++ power))) negative
        ((placeValue whole + placeValue fraction / 10 ^ fraction.length) * 10 ^ e)

/-! ## Reading a sign -/

/-- Every text is a sign or none, and what is read behind it. -/
theorem exists_signText (cs : List Char) : ∃ sign, SignText sign (signed cs).1 ∧ cs = sign ++ (signed cs).2 := by
  unfold signed
  split
  · exact ⟨_, .minus, rfl⟩
  · exact ⟨_, .plus, rfl⟩
  · exact ⟨_, .none, rfl⟩

/-- A sign is read off a text that does not go on with another one. -/
theorem SignText.signed {sign cs : List Char} {negative : Bool} (h : SignText sign negative)
    (opens : ∀ c ∈ cs.head?, c ≠ '+' ∧ c ≠ '-') : signed (sign ++ cs) = (negative, cs) := by
  cases h with
  | plus | minus => rfl
  | none =>
    cases cs with
    | nil => rfl
    | cons c cs =>
      obtain ⟨plus, minus⟩ := opens c (Option.mem_some_self c)
      rw [List.nil_append]
      unfold NameQuery.signed
      split
      · next same =>
        cases same
        exact absurd rfl minus
      · next same =>
        cases same
        exact absurd rfl plus
      · rfl

theorem ne_sign_of_isDigit {c : Char} (h : c.isDigit = true) : c ≠ '+' ∧ c ≠ '-' := by
  constructor <;> rintro rfl <;> exact absurd h (by decide)

/-! ## Reading a whole number -/

/-- A natural number is read from digits only, at least one, and is their value. -/
theorem naturalNumber?_eq_some_iff {ds : List Char} {n : Nat} :
    naturalNumber? ds = some n ↔ IsDigits ds ∧ ds ≠ [] ∧ n = placeValue ds := by
  unfold naturalNumber?
  rw [digitsValue_eq]
  split_ifs with h
  · rw [Bool.and_eq_true, List.all_eq_true, Bool.not_eq_true', List.isEmpty_eq_false_iff] at h
    rw [Option.some.injEq]
    exact ⟨fun same => ⟨h.2, h.1, same.symm⟩, fun h => h.2.2.symm⟩
  · rw [Bool.and_eq_true, List.all_eq_true, Bool.not_eq_true', List.isEmpty_eq_false_iff] at h
    exact ⟨nofun, fun ⟨digits, ne, _⟩ => absurd ⟨ne, digits⟩ h⟩

/-- A whole number is a natural number with a sign before it. -/
theorem wholeNumber?_eq (cs : List Char) :
    wholeNumber? cs =
      (naturalNumber? (signed cs).2).map fun (n : Nat) => if (signed cs).1 then -(n : ℤ) else n := by
  rw [wholeNumber?]
  obtain ⟨negative, ds⟩ := signed cs
  dsimp only
  cases naturalNumber? ds <;> rfl

/-- A text is read as a whole number exactly if it denotes that number. -/
theorem wholeNumber?_eq_some_iff {cs : List Char} {n : ℤ} : wholeNumber? cs = some n ↔ WholeText cs n := by
  constructor
  · intro h
    obtain ⟨sign, hs, split⟩ := exists_signText cs
    rw [wholeNumber?_eq] at h
    obtain ⟨m, number, rfl⟩ := Option.map_eq_some_iff.mp h
    obtain ⟨digits, ne, rfl⟩ := naturalNumber?_eq_some_iff.mp number
    have text := WholeText.intro hs digits ne
    rwa [← split] at text
  · rintro ⟨hs, digits, ne⟩
    rename_i sign ds negative
    have opens : ∀ c ∈ ds.head?, c ≠ '+' ∧ c ≠ '-' := fun c hc =>
      ne_sign_of_isDigit (digits c (List.mem_of_mem_head? hc))
    rw [wholeNumber?_eq, hs.signed opens]
    dsimp only
    rw [naturalNumber?_eq_some_iff.mpr ⟨digits, ne, rfl⟩]
    rfl

/-- Digits begin with no sign. -/
theorem signed_of_isDigit {ds : List Char} (digits : ∀ c ∈ ds, c.isDigit = true) :
    signed ds = (false, ds) :=
  SignText.none.signed fun c hc => ne_sign_of_isDigit (digits c (List.mem_of_mem_head? hc))

/-- The digits of a number are a text of this number. -/
theorem wholeText_toDigits (n : Nat) : WholeText (Nat.toDigits 10 n) n := by
  have text := WholeText.intro .none (fun _ => isDigit_of_mem_toDigits) (Nat.toDigits_ne_nil (n := n) (b := 10))
  rwa [List.nil_append, if_neg Bool.false_ne_true, ← digitsValue_eq, digitsValue_toDigits] at text

theorem wholeNumber?_toDigits (n : Nat) : wholeNumber? (Nat.toDigits 10 n) = some (n : Int) :=
  wholeNumber?_eq_some_iff.mpr (wholeText_toDigits n)

/-! ## Reading what follows the whole digits -/

/-- A run of characters of one kind ends where a character of another kind follows. -/
theorem span_of_opens {p : Char → Bool} {run rest : List Char} (all : ∀ c ∈ run, p c = true)
    (opens : ∀ c ∈ rest.head?, p c = false) : (run ++ rest).span p = (run, rest) := by
  rw [List.span_eq_takeWhile_dropWhile, List.takeWhile_append_of_pos all, List.dropWhile_append_of_pos all]
  cases rest with
  | nil => simp
  | cons c rest =>
    have stops : p c = false := opens c rfl
    simp [stops]

/-- An exponent opens with neither a digit nor a point, so that a fraction ends before it. -/
theorem ExponentText.opens {cs : List Char} {e : ℤ} (h : ExponentText cs e) :
    ∀ c ∈ cs.head?, c.isDigit = false ∧ c ≠ '.' := by
  cases h with
  | none => nofun
  | power isLetter _ =>
    rintro c ⟨⟩
    rcases isLetter with rfl | rfl <;> decide

/-- The digits behind a point, and what follows them. -/
def fractionOf (cs : List Char) : List Char × List Char :=
  match cs with
  | '.' :: rest => rest.span Char.isDigit
  | _ => ([], cs)

/-- Every text is a fraction or none, and what is read behind it. -/
theorem exists_fractionText (cs : List Char) :
    ∃ point, FractionText point (fractionOf cs).1 ∧ cs = point ++ (fractionOf cs).2 := by
  unfold fractionOf
  split
  · next rest =>
    rw [List.span_eq_takeWhile_dropWhile]
    refine ⟨_, .point fun d hd => ?_, ?_⟩
    · exact List.mem_takeWhile_imp hd
    · rw [List.cons_append, List.takeWhile_append_dropWhile]
  · exact ⟨_, .none, rfl⟩

/-- A fraction is read off a text in which neither digit nor point follows it. -/
theorem FractionText.fractionOf {point fraction cs : List Char} (h : FractionText point fraction)
    (opens : ∀ c ∈ cs.head?, c.isDigit = false ∧ c ≠ '.') : fractionOf (point ++ cs) = (fraction, cs) := by
  cases h with
  | none =>
    cases cs with
    | nil => rfl
    | cons c cs =>
      rw [List.nil_append]
      unfold NameQuery.fractionOf
      split
      · next same =>
        cases same
        exact absurd rfl (opens '.' (Option.mem_some_self _)).2
      · rfl
  | point digits => exact span_of_opens digits fun c hc => (opens c hc).1

/-! ## Reading a decimal -/

namespace Decimal

/-- The size of the number that a decimal is. -/
def size (d : Decimal) : ℚ := d.digits * 10 ^ d.exponent

/-- An exponent is read from its texts and from no others. -/
theorem exponentOf?_eq_some_iff {cs : List Char} {e : ℤ} : exponentOf? cs = some e ↔ ExponentText cs e := by
  constructor
  · intro h
    cases cs with
    | nil =>
      cases h
      exact .none
    | cons letter cs =>
      rw [exponentOf?] at h
      split at h
      · next isLetter =>
        rw [Bool.or_eq_true, decide_eq_true_eq, decide_eq_true_eq] at isLetter
        exact .power isLetter (wholeNumber?_eq_some_iff.mp h)
      · cases h
  · intro h
    cases h with
    | none => rfl
    | power isLetter number =>
      rw [exponentOf?, if_pos (by simpa using isLetter)]
      exact wholeNumber?_eq_some_iff.mpr number

/-- The number that is read, with its point moved behind its last digit. -/
theorem size_mk (negative : Bool) (whole fraction : List Char) (e : ℤ) :
    size ⟨negative, digitsValue (whole ++ fraction), e - fraction.length⟩ =
      (placeValue whole + placeValue fraction / 10 ^ fraction.length) * 10 ^ e := by
  have ten : (10 : ℚ) ≠ 0 := by norm_num
  rw [size, digitsValue_eq, placeValue_append, zpow_sub₀ ten, zpow_natCast]
  push_cast
  field_simp

/-- A decimal is put together from the parts of its text. -/
theorem ofText?_eq {cs unsigned whole rest fraction power : List Char} {negative : Bool}
    (hs : signed cs = (negative, unsigned)) (hw : unsigned.span Char.isDigit = (whole, rest))
    (hf : fractionOf rest = (fraction, power)) :
    ofText? cs =
      if whole.isEmpty && fraction.isEmpty then none
      else (exponentOf? power).map fun e => ⟨negative, digitsValue (whole ++ fraction), e - fraction.length⟩ := by
  obtain ⟨rfl, rfl⟩ := Prod.mk.inj hf
  rw [ofText?, hs]
  dsimp only
  generalize unsigned.span Char.isDigit = parts at hw
  subst hw
  rfl

theorem isEmpty_and_isEmpty_iff {ds es : List Char} :
    (ds.isEmpty && es.isEmpty) = true ↔ ¬ (ds ≠ [] ∨ es ≠ []) := by
  rw [Bool.and_eq_true, List.isEmpty_iff, List.isEmpty_iff, not_or, not_not, not_not]

/-- A text that denotes a number is read as that number. -/
theorem ofText?_of_decimalText {cs : List Char} {negative : Bool} {q : ℚ} (h : DecimalText cs negative q) :
    ∃ d, ofText? cs = some d ∧ d.negative = negative ∧ d.size = q := by
  obtain ⟨hs, hw, hf, hne, he⟩ := h
  rename_i sign whole point fraction power e
  have behind : ∀ c ∈ (point ++ power).head?, c.isDigit = false ∧ c ≠ '+' ∧ c ≠ '-' := by
    intro c hc
    cases hf with
    | point _ =>
      cases hc
      decide
    | none =>
      cases he with
      | none => cases hc
      | power isLetter _ =>
        cases hc
        rcases isLetter with rfl | rfl <;> decide
  have opens : ∀ c ∈ (whole ++ (point ++ power)).head?, c ≠ '+' ∧ c ≠ '-' := by
    intro c hc
    cases whole with
    | cons d whole =>
      cases hc
      exact ne_sign_of_isDigit (hw c List.mem_cons_self)
    | nil => exact (behind c hc).2
  refine ⟨⟨negative, digitsValue (whole ++ fraction), e - fraction.length⟩, ?_, rfl, size_mk _ _ _ _⟩
  have digits := span_of_opens hw fun c hc => (behind c hc).1
  rw [ofText?_eq (hs.signed opens) digits (hf.fractionOf he.opens),
    if_neg (fun empty => isEmpty_and_isEmpty_iff.mp empty hne), exponentOf?_eq_some_iff.mpr he]
  rfl

/-- A text that is read as a decimal denotes the number of that decimal. -/
theorem decimalText_of_ofText? {cs : List Char} {d : Decimal} (h : ofText? cs = some d) :
    DecimalText cs d.negative d.size := by
  obtain ⟨sign, hs, split⟩ := exists_signText cs
  generalize parted : signed cs = parts at hs split
  obtain ⟨negative, unsigned⟩ := parts
  obtain ⟨point, hf, split'⟩ := exists_fractionText (unsigned.dropWhile Char.isDigit)
  generalize parted' : fractionOf (unsigned.dropWhile Char.isDigit) = parts at hf split'
  obtain ⟨fraction, power⟩ := parts
  rw [ofText?_eq parted (List.span_eq_takeWhile_dropWhile ..) parted'] at h
  split_ifs at h with empty
  obtain ⟨e, exponent, rfl⟩ := Option.map_eq_some_iff.mp h
  have digits : IsDigits (unsigned.takeWhile Char.isDigit) := fun d hd => List.mem_takeWhile_imp hd
  have text := DecimalText.intro hs digits hf
    (by_contra fun none => empty (isEmpty_and_isEmpty_iff.mpr none)) (exponentOf?_eq_some_iff.mp exponent)
  rw [← split', List.takeWhile_append_dropWhile, ← split] at text
  rwa [size_mk]

/-! ## Rounding a decimal -/

open Binary64

/-- The size of a decimal is a quotient of whole numbers. -/
theorem size_eq_div (d : Decimal) :
    d.size = (d.digits * Nat.pow 10 d.exponent.toNat : Nat) / (Nat.pow 10 (-d.exponent).toNat : Nat) := by
  have power := zpow_eq_div (b := 10) (by decide) d.exponent
  rw [Nat.cast_ofNat] at power
  rw [size, power, Nat.cast_mul, Nat.pow_eq, Nat.pow_eq, mul_div_assoc]

/-- The place of the first digit says how large a decimal is. -/
theorem size_bounds {d : Decimal} (h : d.digits ≠ 0) :
    (10 : ℚ) ^ (d.exponent + (Nat.toDigits 10 d.digits).length - 1) ≤ d.size ∧
      d.size < 10 ^ (d.exponent + (Nat.toDigits 10 d.digits).length) := by
  have ten : (10 : ℚ) ≠ 0 := by norm_num
  have unit : (0 : ℚ) < 10 ^ d.exponent := zpow_pos (by norm_num) _
  obtain ⟨n, hn⟩ : ∃ n, (Nat.toDigits 10 d.digits).length = n + 1 :=
    Nat.exists_eq_add_one.mpr Nat.length_toDigits_pos
  have upper : d.digits < 10 ^ (n + 1) :=
    (Nat.length_toDigits_le_iff (by decide) (Nat.succ_pos n)).mp hn.le
  have lower : 10 ^ n ≤ d.digits := by
    rcases Nat.eq_zero_or_pos n with rfl | more
    · exact Nat.one_le_iff_ne_zero.mpr h
    · by_contra less
      have := (Nat.length_toDigits_le_iff (b := 10) (by decide) more).mpr (not_le.mp less)
      omega
  have lower' : (10 : ℚ) ^ n ≤ d.digits := by exact_mod_cast lower
  have upper' : (d.digits : ℚ) < 10 ^ (n + 1) := by exact_mod_cast upper
  constructor
  · calc
      (10 : ℚ) ^ (d.exponent + (Nat.toDigits 10 d.digits).length - 1) = 10 ^ n * 10 ^ d.exponent := by
        rw [hn, ← zpow_natCast, ← zpow_add₀ ten]
        congr 1
        push_cast
        ring
      _ ≤ d.size := mul_le_mul_of_nonneg_right lower' unit.le
  · calc
      d.size < 10 ^ (n + 1) * 10 ^ d.exponent := mul_lt_mul_of_pos_right upper' unit
      _ = 10 ^ (d.exponent + (Nat.toDigits 10 d.digits).length) := by
        rw [hn, ← zpow_natCast, ← zpow_add₀ ten]
        congr 1
        push_cast
        ring

/-- The limit is at most a one with 310 zeros behind it. -/
theorem limit_le : limit ≤ 10 ^ (310 : ℤ) := by
  refine le_trans limit_bounds.2 ?_
  have : (2 ^ 52 * 2 ^ 972 : Nat) ≤ 10 ^ 310 := by decide +kernel
  exact_mod_cast this

/-- A one at the place 331 behind the point is at most half of the unit. -/
theorem two_mul_le_unit : 2 * 10 ^ (-331 : ℤ) ≤ unit := by
  have : (2 * 2 ^ 1074 : Nat) ≤ 10 ^ 331 := by decide +kernel
  rw [unit, zpow_neg, zpow_neg, ← div_eq_mul_inv, div_le_iff₀ (by positivity), inv_mul_eq_div, le_div_iff₀ (by positivity)]
  exact_mod_cast this

/-- The number of digits settles nothing that rounding would not settle in the same way. -/
theorem toBinary64?_eq (d : Decimal) :
    d.toBinary64? =
      round? d.negative (d.digits * Nat.pow 10 d.exponent.toNat) (Nat.pow 10 (-d.exponent).toNat) := by
  have den : Nat.pow 10 (-d.exponent).toNat ≠ 0 := Nat.pos_iff_ne_zero.mp (Nat.pow_pos (by decide))
  rw [toBinary64?]
  dsimp only
  split_ifs with none large small
  · rw [none, Nat.zero_mul]
    rfl
  · have num : d.digits * Nat.pow 10 d.exponent.toNat ≠ 0 :=
      Nat.mul_ne_zero none (Nat.pos_iff_ne_zero.mp (Nat.pow_pos (by decide)))
    refine (round?_eq_none num den d.negative ?_).symm
    rw [← size_eq_div]
    calc
      limit ≤ 10 ^ (310 : ℤ) := limit_le
      _ ≤ 10 ^ (d.exponent + (Nat.toDigits 10 d.digits).length - 1) :=
        zpow_le_zpow_right₀ (by norm_num) (by omega)
      _ ≤ d.size := (size_bounds none).1
  · have tiny : 2 * |withSign d.negative d.size| ≤ unit := by
      have positive : 0 < d.size := lt_of_lt_of_le (zpow_pos (by norm_num) _) (size_bounds none).1
      rw [abs_withSign, abs_of_pos positive]
      calc
        2 * d.size ≤ 2 * 10 ^ (d.exponent + (Nat.toDigits 10 d.digits).length) :=
          mul_le_mul_of_nonneg_left (size_bounds none).2.le two_pos.le
        _ ≤ 2 * 10 ^ (-331 : ℤ) :=
          mul_le_mul_of_nonneg_left (zpow_le_zpow_right₀ (by norm_num) (by omega)) two_pos.le
        _ ≤ unit := two_mul_le_unit
    rw [eq_comm, round?_eq_some_iff den, ← size_eq_div]
    refine ⟨?_, rfl, isNearest_zero tiny⟩
    rw [abs_withSign] at tiny
    have := unit_lt_limit
    linarith [le_abs_self d.size, abs_nonneg d.size]
  · rfl

/-- **A decimal is read as the nearest double.** -/
theorem toBinary64?_eq_some_iff {d : Decimal} {x : Binary64} :
    d.toBinary64? = some x ↔
      d.size < limit ∧ x.negative = d.negative ∧ x.IsNearest (withSign d.negative d.size) := by
  have den : Nat.pow 10 (-d.exponent).toNat ≠ 0 := Nat.pos_iff_ne_zero.mp (Nat.pow_pos (by decide))
  rw [toBinary64?_eq, round?_eq_some_iff den, ← size_eq_div]

/-- Below the limit there is one. -/
theorem exists_toBinary64? {d : Decimal} (h : d.size < limit) : ∃ x, d.toBinary64? = some x := by
  have den : Nat.pow 10 (-d.exponent).toNat ≠ 0 := Nat.pos_iff_ne_zero.mp (Nat.pow_pos (by decide))
  rw [size_eq_div] at h
  obtain ⟨x, rounded, -⟩ := exists_nearest den h
  rw [toBinary64?_eq]
  cases d.negative with
  | false => exact ⟨x, rounded⟩
  | true => exact ⟨x.negated, by rw [round?_negated, rounded, Option.map_some]⟩

end Decimal

end NameQuery
