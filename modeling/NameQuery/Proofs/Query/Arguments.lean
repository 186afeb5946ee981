import NameQuery.Proofs.Number.Decimals
import NameQuery.Value

/-!
# What an argument means

Every text means exactly one value, and which one is said by the text alone (`Value.Means`): a whole number where
it is written as one that fits into 64 bits signed; else the nearest double where it is written as a decimal and
that double is finite; else a truth value or null where it is one of three words; else a text, as it stands. That
is how an argument is read (`Value.ofArgument_eq_iff`).

So a whole number that does not fit becomes a double, or stays a text from `Binary64.limit` on; no name of an
infinity or of what is not a number is read as a number; and what whole numbers and truth values are displayed as
is read as these values again (`Value.ofArgument_classifies`).
-/

set_option autoImplicit false

namespace NameQuery

open Binary64

/-- A text of a whole number that fits into 64 bits signed. -/
def FitsInt64 (cs : List Char) : Prop := ∃ n : ℤ, WholeText cs n ∧ -2 ^ 63 ≤ n ∧ n < 2 ^ 63

/-- A text of a decimal whose nearest double is finite. -/
def IsFiniteText (cs : List Char) : Prop := ∃ negative size, DecimalText cs negative size ∧ size < limit

/-! ## Numbers -/

/-- A text denotes one whole number at most. -/
theorem WholeText.unique {cs : List Char} {m n : ℤ} (hm : WholeText cs m) (hn : WholeText cs n) : m = n :=
  Option.some_inj.mp ((wholeNumber?_eq_some_iff.mpr hm).symm.trans (wholeNumber?_eq_some_iff.mpr hn))

/-- A text denotes one decimal at most, its sign included. -/
theorem DecimalText.unique {cs : List Char} {negative negative' : Bool} {size size' : ℚ}
    (h : DecimalText cs negative size) (h' : DecimalText cs negative' size') :
    negative = negative' ∧ size = size' := by
  obtain ⟨d, read, rfl, rfl⟩ := Decimal.ofText?_of_decimalText h
  obtain ⟨d', read', rfl, rfl⟩ := Decimal.ofText?_of_decimalText h'
  cases read.symm.trans read'
  exact ⟨rfl, rfl⟩

theorem int64?_eq_some_iff {m : ℤ} {n : Int64} : int64? m = some n ↔ m = n.toInt := by
  have lower := n.le_toInt
  have upper := n.toInt_lt
  unfold int64?
  constructor
  · intro h
    split_ifs at h with fits
    cases h
    exact (Int64.toInt_ofInt_of_le (by omega) (by omega)).symm
  · rintro rfl
    rw [if_pos (by omega), Int64.ofInt_toInt]

/-- A number of 64 bits is read from the texts that denote it. -/
theorem readWhole_eq_some_iff {cs : List Char} {n : Int64} :
    (wholeNumber? cs).bind int64? = some n ↔ WholeText cs n.toInt := by
  rw [Option.bind_eq_some_iff]
  constructor
  · rintro ⟨m, whole, fits⟩
    rw [int64?_eq_some_iff] at fits
    exact fits ▸ wholeNumber?_eq_some_iff.mp whole
  · exact fun text => ⟨_, wholeNumber?_eq_some_iff.mpr text, int64?_eq_some_iff.mpr rfl⟩

/-- No number of 64 bits is read from a text that denotes none. -/
theorem readWhole_eq_none_iff {cs : List Char} : (wholeNumber? cs).bind int64? = none ↔ ¬ FitsInt64 cs := by
  rw [Option.eq_none_iff_forall_ne_some]
  constructor
  · rintro none ⟨n, text, lower, upper⟩
    refine none (Int64.ofInt n) (readWhole_eq_some_iff.mpr ?_)
    rwa [Int64.toInt_ofInt_of_le lower upper]
  · intro unfit n some
    exact unfit ⟨n.toInt, readWhole_eq_some_iff.mp some, n.le_toInt, n.toInt_lt⟩

/-- A double is read from the texts of decimals within the limit that it is the nearest double to. -/
theorem readDecimal_eq_some_iff {cs : List Char} {x : Binary64} :
    (Decimal.ofText? cs).bind Decimal.toBinary64? = some x ↔
      ∃ size, DecimalText cs x.negative size ∧ size < limit ∧ x.IsNearest (withSign x.negative size) := by
  rw [Option.bind_eq_some_iff]
  constructor
  · rintro ⟨d, read, rounded⟩
    obtain ⟨finite, sign, nearest⟩ := Decimal.toBinary64?_eq_some_iff.mp rounded
    have text := Decimal.decimalText_of_ofText? read
    rw [← sign] at text nearest
    exact ⟨d.size, text, finite, nearest⟩
  · rintro ⟨size, text, finite, nearest⟩
    obtain ⟨d, read, sign, rfl⟩ := Decimal.ofText?_of_decimalText text
    rw [← sign] at nearest
    exact ⟨d, read, Decimal.toBinary64?_eq_some_iff.mpr ⟨finite, sign.symm, nearest⟩⟩

/-- No double is read from a text that denotes no decimal within the limit. -/
theorem readDecimal_eq_none_iff {cs : List Char} :
    (Decimal.ofText? cs).bind Decimal.toBinary64? = none ↔ ¬ IsFiniteText cs := by
  constructor
  · rintro none ⟨negative, size, text, finite⟩
    obtain ⟨d, read, rfl, rfl⟩ := Decimal.ofText?_of_decimalText text
    rw [read, Option.bind_some] at none
    obtain ⟨x, rounded⟩ := Decimal.exists_toBinary64? finite
    rw [rounded] at none
    cases none
  · intro infinite
    rw [Option.eq_none_iff_forall_ne_some]
    intro x some
    obtain ⟨size, text, finite, -⟩ := readDecimal_eq_some_iff.mp some
    exact infinite ⟨_, size, text, finite⟩

/-- A whole number is written as a decimal as well. -/
theorem WholeText.decimalText {cs : List Char} {n : ℤ} (h : WholeText cs n) :
    ∃ negative, DecimalText cs negative |(n : ℚ)| ∧ withSign negative |(n : ℚ)| = n := by
  obtain ⟨hs, hd, hne⟩ := h
  rename_i sign ds negative
  have text := DecimalText.intro hs hd .none (.inl hne) .none
  have size :
      ((placeValue ds : ℚ) + placeValue [] / 10 ^ ([] : List Char).length) * 10 ^ (0 : ℤ) = placeValue ds := by
    simp [placeValue]
  rw [size, List.append_nil, List.append_nil] at text
  refine ⟨negative, ?_⟩
  cases negative <;> simpa [withSign] using text

/-- A decimal has a digit, so that no word is one. -/
theorem DecimalText.exists_digit {cs : List Char} {negative : Bool} {size : ℚ}
    (h : DecimalText cs negative size) :
    ∃ c ∈ cs, c.isDigit = true := by
  obtain ⟨hs, hw, hf, hne, he⟩ := h
  rename_i sign whole point fraction power e
  rcases hne with some | some
  · obtain ⟨d, hd⟩ := List.exists_mem_of_ne_nil _ some
    exact ⟨d, by simp [hd], hw d hd⟩
  · obtain ⟨d, hd⟩ := List.exists_mem_of_ne_nil _ some
    cases hf with
    | none => cases hd
    | point digits => exact ⟨d, by simp [hd], digits d hd⟩

/-- A whole number is denoted by its display. -/
theorem wholeText_toString (n : ℤ) : WholeText (toString n).toList n := by
  rw [Int.toString_eq_repr, Int.repr_eq_if]
  split
  case isTrue nonneg =>
    have text := wholeText_toDigits n.toNat
    rwa [Int.toNat_of_nonneg nonneg, ← String.toList_ofList (l := Nat.toDigits 10 n.toNat),
      ← Nat.repr_eq_ofList_toDigits] at text
  case isFalse negative =>
    have text := WholeText.intro .minus (fun _ => isDigit_of_mem_toDigits)
      (Nat.toDigits_ne_nil (n := (-n).toNat) (b := 10))
    rw [if_pos rfl, ← digitsValue_eq, digitsValue_toDigits, Int.toNat_of_nonneg (by omega), neg_neg] at text
    rwa [String.toList_append, Nat.repr_eq_ofList_toDigits, String.toList_ofList (l := Nat.toDigits 10 _)]

/-! ## Every text -/

namespace Value

/-- What a text means, for each kind of value. -/
inductive Means (s : String) : Value → Prop
  | int {n : Int64} (whole : WholeText s.toList n.toInt) : Means s (.int n)
  | float {x : Binary64} {size : ℚ} (unfit : ¬ FitsInt64 s.toList)
      (decimal : DecimalText s.toList x.negative size) (finite : size < limit)
      (nearest : x.IsNearest (withSign x.negative size)) : Means s (.float x)
  | bool {b : Bool} (word : s = if b then "true" else "false") : Means s (.bool b)
  | null (word : s = "null") : Means s .null
  | string (unfit : ¬ FitsInt64 s.toList) (infinite : ¬ IsFiniteText s.toList)
      (word : s ∉ ["true", "false", "null"]) : Means s (.string s)

/-- Every text has a meaning, the one that is read. -/
theorem means_ofArgument (s : String) : Means s (ofArgument s) := by
  rw [ofArgument]
  split
  · next n whole => exact .int (readWhole_eq_some_iff.mp whole)
  · next unfit =>
    split
    · next x decimal =>
      obtain ⟨size, text, finite, nearest⟩ := readDecimal_eq_some_iff.mp decimal
      exact .float (readWhole_eq_none_iff.mp unfit) text finite nearest
    · next infinite =>
      split_ifs with isTrue isFalse isNull
      · exact .bool isTrue
      · exact .bool isFalse
      · exact .null isNull
      · refine .string (readWhole_eq_none_iff.mp unfit) (readDecimal_eq_none_iff.mp infinite) ?_
        simp [isTrue, isFalse, isNull]

/-- What a text means is what is read. -/
theorem Means.ofArgument_eq {s : String} {v : Value} (h : Means s v) : ofArgument s = v := by
  cases h with
  | int whole =>
    rw [ofArgument, readWhole_eq_some_iff.mpr whole]
  | float unfit decimal finite nearest =>
    rw [ofArgument, readWhole_eq_none_iff.mpr unfit, readDecimal_eq_some_iff.mpr ⟨_, decimal, finite, nearest⟩]
  | bool word =>
    rename_i b
    subst word
    cases b <;> decide +kernel
  | null word =>
    subst word
    decide +kernel
  | string unfit infinite word =>
    simp only [List.mem_cons, List.not_mem_nil, or_false, not_or] at word
    rw [ofArgument, readWhole_eq_none_iff.mpr unfit, readDecimal_eq_none_iff.mpr infinite]
    dsimp only
    rw [if_neg word.1, if_neg word.2.1, if_neg word.2.2]

/-- An argument is read as what it means. -/
theorem ofArgument_eq_iff {s : String} {v : Value} : ofArgument s = v ↔ Means s v :=
  ⟨fun same => same ▸ means_ofArgument s, Means.ofArgument_eq⟩

/-! ## Some texts -/

/-- A whole number that does not fit into 64 bits is a double, or a text where no double is near. -/
theorem ofArgument_of_unfit {s : String} {n : ℤ} (whole : WholeText s.toList n)
    (unfit : ¬ (-2 ^ 63 ≤ n ∧ n < 2 ^ 63)) :
    (|(n : ℚ)| < limit → ∃ x, ofArgument s = .float x ∧ x.IsNearest n) ∧
      (limit ≤ |(n : ℚ)| → ofArgument s = .string s) := by
  have unfit' : ¬ FitsInt64 s.toList := by
    rintro ⟨m, text, bounds⟩
    cases text.unique whole
    exact unfit bounds
  obtain ⟨negative, decimal, value⟩ := whole.decimalText
  constructor
  · intro finite
    obtain ⟨x, read⟩ := Option.ne_none_iff_exists'.mp
      fun none => readDecimal_eq_none_iff.mp none ⟨_, _, decimal, finite⟩
    obtain ⟨size, text, finite, nearest⟩ := readDecimal_eq_some_iff.mp read
    obtain ⟨rfl, rfl⟩ := decimal.unique text
    exact ⟨x, (Means.float unfit' text finite nearest).ofArgument_eq, value ▸ nearest⟩
  · intro infinite
    refine (Means.string unfit' ?_ fun word => ?_).ofArgument_eq
    · rintro ⟨negative', size, text, finite⟩
      obtain ⟨rfl, rfl⟩ := decimal.unique text
      exact absurd finite infinite.not_gt
    · obtain ⟨c, mem, digit⟩ := decimal.exists_digit
      have letters : ∀ word ∈ ["true", "false", "null"], ∀ c ∈ word.toList, ¬ c.isDigit = true := by simp
      exact letters s word c mem digit

/-- A text without a digit that is none of the three words stays a text. -/
theorem ofArgument_of_no_digit {s : String} (h : ∀ c ∈ s.toList, c.isDigit = false)
    (word : s ∉ ["true", "false", "null"]) : ofArgument s = .string s := by
  have none : ∀ negative size, ¬ DecimalText s.toList negative size := by
    intro negative size text
    obtain ⟨c, mem, digit⟩ := text.exists_digit
    rw [h c mem] at digit
    cases digit
  refine (Means.string ?_ ?_ word).ofArgument_eq
  · rintro ⟨n, text, -⟩
    obtain ⟨negative, decimal, -⟩ := text.decimalText
    exact none _ _ decimal
  · rintro ⟨negative, size, text, -⟩
    exact none _ _ text

/-- The names of an infinity and of what is not a number, in lower case and without a sign. -/
def nonFiniteNames : List (List Char) :=
  [['i', 'n', 'f'], ['i', 'n', 'f', 'i', 'n', 'i', 't', 'y'], ['n', 'a', 'n']]

/-- A text that names an infinity or what is not a number, with any sign and in any case. -/
def IsNonFinite (cs : List Char) : Prop :=
  ∃ sign negative, SignText sign negative ∧ ∃ name ∈ nonFiniteNames, cs.map Char.toLower = sign ++ name

theorem toLower_of_isDigit {c : Char} (h : c.isDigit = true) : c.toLower = c := by
  have digit : 48 ≤ c.toNat ∧ c.toNat ≤ 57 := Char.isDigit_iff_toNat.mp h
  have upper : c.isUpper = true ↔ 65 ≤ c.toNat ∧ c.toNat ≤ 90 := by
    simp [Char.isUpper, UInt32.le_iff_toNat_le]
  exact Char.toLower_eq_of_not_isUpper (by rw [upper]; omega)

/-- The characters of such a text. No digit is among them, and each of the three words has a letter that is not. -/
theorem IsNonFinite.mem {cs : List Char} (h : IsNonFinite cs) {c : Char} (mem : c ∈ cs) :
    c.toLower ∈ ['+', '-', 'i', 'n', 'f', 't', 'y', 'a'] := by
  obtain ⟨sign, negative, hs, name, hn, eq⟩ := h
  have signs : ∀ c ∈ sign, c ∈ ['+', '-', 'i', 'n', 'f', 't', 'y', 'a'] := by
    cases hs <;> simp
  have names : ∀ name ∈ nonFiniteNames, ∀ c ∈ name, c ∈ ['+', '-', 'i', 'n', 'f', 't', 'y', 'a'] := by
    simp [nonFiniteNames]
  have mem' := List.mem_map_of_mem (f := Char.toLower) mem
  rw [eq, List.mem_append] at mem'
  exact mem'.elim (signs _) (names name hn _)

/-- Names of what is not finite are texts. -/
theorem ofArgument_of_isNonFinite {s : String} (h : IsNonFinite s.toList) : ofArgument s = .string s := by
  refine ofArgument_of_no_digit (fun c mem => ?_) fun word => ?_
  · by_contra digit
    rw [Bool.not_eq_false] at digit
    have mem' := h.mem mem
    rw [toLower_of_isDigit digit] at mem'
    simp only [List.mem_cons, List.not_mem_nil, or_false] at mem'
    rcases mem' with rfl | rfl | rfl | rfl | rfl | rfl | rfl | rfl <;> cases digit
  · simp only [List.mem_cons, List.not_mem_nil, or_false] at word
    rcases word with rfl | rfl | rfl
    · simpa using h.mem (c := 'u') (by simp)
    · simpa using h.mem (c := 's') (by simp)
    · simpa using h.mem (c := 'u') (by simp)

/-- What whole numbers are displayed as is read as them. -/
theorem ofArgument_display_int (n : Int64) : ofArgument (display (.int n)) = .int n :=
  (Means.int (wholeText_toString n.toInt)).ofArgument_eq

/-- A boolean is read back from its display. -/
theorem ofArgument_display_bool (b : Bool) : ofArgument (display (.bool b)) = .bool b :=
  (Means.bool rfl).ofArgument_eq

/-- The classification of every text as an argument, and what it says of whole numbers that do not fit, of names
of what is not finite, and of displays. -/
theorem ofArgument_classifies (s : String) :
    ((∀ n : Int64, ofArgument s = .int n ↔ WholeText s.toList n.toInt) ∧
      (∀ x : Binary64, ofArgument s = .float x ↔ ¬ FitsInt64 s.toList ∧
        ∃ size, DecimalText s.toList x.negative size ∧ size < limit ∧
          x.IsNearest (withSign x.negative size)) ∧
      (∀ b : Bool, ofArgument s = .bool b ↔ s = if b then "true" else "false") ∧
      (ofArgument s = .null ↔ s = "null") ∧
      (∀ t : String, ofArgument s = .string t ↔
        t = s ∧ ¬ FitsInt64 s.toList ∧ ¬ IsFiniteText s.toList ∧ s ∉ ["true", "false", "null"])) ∧
    (∀ n : ℤ, WholeText s.toList n → ¬ (-2 ^ 63 ≤ n ∧ n < 2 ^ 63) →
      (|(n : ℚ)| < limit → ∃ x, ofArgument s = .float x ∧ x.IsNearest n) ∧
        (limit ≤ |(n : ℚ)| → ofArgument s = .string s)) ∧
    (IsNonFinite s.toList → ofArgument s = .string s) ∧
    (∀ n : Int64, ofArgument (display (.int n)) = .int n) ∧
    ∀ b : Bool, ofArgument (display (.bool b)) = .bool b := by
  refine ⟨⟨fun n => ?_, fun x => ?_, fun b => ?_, ?_, fun t => ?_⟩, fun n => ofArgument_of_unfit,
    ofArgument_of_isNonFinite, ofArgument_display_int, ofArgument_display_bool⟩ <;> rw [ofArgument_eq_iff]
  case refine_1 =>
    exact ⟨fun | .int whole => whole, .int⟩
  case refine_2 =>
    exact ⟨fun | .float unfit decimal finite nearest => ⟨unfit, _, decimal, finite, nearest⟩,
      fun ⟨unfit, _, decimal, finite, nearest⟩ => .float unfit decimal finite nearest⟩
  case refine_3 =>
    exact ⟨fun | .bool word => word, .bool⟩
  case refine_4 =>
    exact ⟨fun | .null word => word, .null⟩
  case refine_5 =>
    constructor
    · rintro ⟨⟩
      next unfit infinite word => exact ⟨rfl, unfit, infinite, word⟩
    · rintro ⟨rfl, unfit, infinite, word⟩
      exact .string unfit infinite word

end Value

end NameQuery
