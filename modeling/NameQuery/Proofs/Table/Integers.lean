import NameQuery.Proofs.Number.Rational
import NameQuery.Proofs.Table.Finding
import NameQuery.Query.Compile

/-!
# Sorting whole numbers

Rows are ordered by a field with whole numbers as the doubles nearest to these numbers are. Numbers with
different doubles are sorted as whole numbers, whatever their signs (`Arrangement.separates`). Rows whose
numbers have one double keep their places (`Arrangement.idxOf_lt_idxOf_of_same`), so that above 2⁵³
a greater number can stay in front (`Store.large_integers_keep_their_places`).
-/

set_option autoImplicit false

namespace NameQuery

/-- A record has a whole number in a field. -/
def Record.HasInteger (r : Record) (field : String) (n : Int) : Prop :=
  ∃ inRange, r.get? field = some (.number (.whole n inRange))

/-! ## Two numbers -/

variable {x y : Int} {a b : Record} {field : String} {d : Option Direction}

/-- Of two numbers with different doubles the lesser one is in front. -/
theorem Record.HasInteger.cellOrder_eq_lt (hx : a.HasInteger field x) (hy : b.HasInteger field y)
    (lt : x < y) (different : (Binary64.ofInt x).same (Binary64.ofInt y) = false) :
    cellOrder (a.get? field) (b.get? field) = .lt := by
  obtain ⟨xRange, hx⟩ := hx
  obtain ⟨yRange, hy⟩ := hy
  have le := Binary64.units_ofInt_le (Number.natAbs_lt xRange) (Number.natAbs_lt yRange) (Int.le_of_lt lt)
  have ne : (Binary64.ofInt x).units ≠ (Binary64.ofInt y).units := beq_eq_false_iff_ne.mp different
  rw [hx, hy]
  exact compare_lt_iff_lt.mpr (lt_of_le_of_ne le ne)

/-- Records whose numbers have one double are tied. -/
theorem Record.HasInteger.ties (hx : a.HasInteger field x) (hy : b.HasInteger field y)
    (same : (Binary64.ofInt x).same (Binary64.ofInt y) = true) : Ties [(field, d)] a b := by
  obtain ⟨_, hx⟩ := hx
  obtain ⟨_, hy⟩ := hy
  intro entry hentry
  rw [List.mem_singleton.mp hentry, hx, hy]
  exact compare_eq_iff_eq.mpr (beq_iff_eq.mp same)

/-! ## Arranged rows -/

namespace Arrangement

variable {rows : List Record}

/-- The rows with one whole number in a field stand in front of those with another one, or behind them
if the direction descends. -/
def Separates {entries : List (String × Option Direction)} (arranged : Arrangement entries rows)
    (field : String) (d : Option Direction) (x y : Int) : Prop :=
  ∀ i j : Fin rows.length, (rows.get i).HasInteger field x → (rows.get j).HasInteger field y →
    if d = some .descending then arranged.places.idxOf j < arranged.places.idxOf i
    else arranged.places.idxOf i < arranged.places.idxOf j

/-- Whole numbers with different doubles are sorted as whole numbers. -/
theorem separates (arranged : Arrangement [(field, d)] rows) (lt : x < y)
    (different : (Binary64.ofInt x).same (Binary64.ofInt y) = false) :
    arranged.Separates field d x y := by
  intro i j hx hy
  have front := hx.cellOrder_eq_lt hy lt different
  by_cases descends : d = some .descending
  · rw [if_pos descends, idxOf_lt_idxOf_iff]
    refine .inl (Record.precedes_singleton.mpr ?_)
    rw [@Std.OrientedCmp.eq_swap _ Record.cellOrder, front, Record.inFront, if_pos descends]
    rfl
  · rw [if_neg descends, idxOf_lt_idxOf_iff]
    refine .inl (Record.precedes_singleton.mpr ?_)
    rw [front, Record.inFront, if_neg descends]

/-- Rows whose whole numbers have one double keep their places. -/
theorem idxOf_lt_idxOf_of_same (arranged : Arrangement [(field, d)] rows) {i j : Fin rows.length}
    (hx : (rows.get i).HasInteger field x) (hy : (rows.get j).HasInteger field y)
    (same : (Binary64.ofInt x).same (Binary64.ofInt y) = true) (before : i < j) :
    arranged.places.idxOf i < arranged.places.idxOf j :=
  arranged.idxOf_lt_idxOf_iff.mpr (.inr ⟨hx.ties hy same, before⟩)

end Arrangement

/-! ## Found rows -/

def numbered (n : Int) (inRange : Number.InRange n) : Record := .ofList [("id", .number (.whole n inRange))]

theorem hasInteger_numbered (n : Int) (inRange : Number.InRange n) :
    (numbered n inRange).HasInteger "id" n :=
  ⟨inRange, Record.get?_ofList [("id", .number (.whole n inRange))] "id"⟩

/-- The query of all rows by their numbers. -/
def Query.byNumber : Query := ⟨"*", "", "id", 0, 0, []⟩

namespace Store

/-- What an unlimited query finds is the arranged rows. -/
theorem exists_arrangement_of_find {s : Store} {table : String} {q : Query} {rows : List Record}
    {found : Found} (limit : q.limit = 0) (offset : q.offset = 0) (stored : s.rows? table = some rows)
    (finds : s.find table q = .ok found) :
    ∃ arranged : Arrangement q.orderFields (rows.filter q.Matches),
      found = .many (arranged.toList.map (Record.project q.columns)) := by
  obtain ⟨-, others, hothers, rfl⟩ := find_eq_ok_iff.mp finds
  cases stored.symm.trans hothers
  refine ⟨Arrangement.sorted _ _, ?_⟩
  have many : q.wantsOne = false := by rw [Query.wantsOne, limit]; rfl
  rw [many, select_eq_map, limit, offset]
  rfl

/-- The rows with one whole number are found in front of those with another one, or behind them if the
order descends, in every table and for every query that orders by a single field. -/
def SortsIntegers (x y : Int) : Prop :=
  ∀ (s : Store) (table : String) (q : Query) (field : String) (d : Option Direction) (rows : List Record)
    (found : Found), q.orderFields = [(field, d)] → q.limit = 0 → q.offset = 0 →
      s.rows? table = some rows → s.find table q = .ok found →
        ∃ arranged : Arrangement [(field, d)] (rows.filter q.Matches),
          found = .many (arranged.toList.map (Record.project q.columns)) ∧
            arranged.Separates field d x y

/-- All rows are asked for. -/
theorem filter_byNumber (rows : List Record) : rows.filter Query.byNumber.Matches = rows := by
  apply List.filter_eq_self.mpr
  intro row _
  exact decide_eq_true fun _ _ _ unfiltered => nomatch unfiltered

/-- Where two numbers have one double, the greater one stays in front if it came first. -/
theorem not_sortsIntegers_of_same (hx : Number.InRange x) (hy : Number.InRange y)
    (same : (Binary64.ofInt x).same (Binary64.ofInt y) = true) : ¬ SortsIntegers x y := by
  intro sorts
  have swapped : (Binary64.ofInt y).same (Binary64.ofInt x) = true := by
    rw [Binary64.same, BEq.comm]
    exact same
  obtain ⟨arranged, -, separates⟩ := sorts ⟨[("users", [numbered y hy, numbered x hx])]⟩ "users" .byNumber
    "id" none _ _ rfl rfl rfl rfl (find_of_counted rfl rfl)
  revert arranged
  rw [filter_byNumber]
  intro arranged separates
  have kept := arranged.idxOf_lt_idxOf_of_same (i := 0) (j := 1) (hasInteger_numbered y hy)
    (hasInteger_numbered x hx) swapped Nat.zero_lt_one
  have moved := separates 1 0 (hasInteger_numbered x hx) (hasInteger_numbered y hy)
  rw [if_neg (Option.some_ne_none _).symm] at moved
  exact absurd kept (Nat.lt_asymm moved)

/-- Two numbers that are not rounded to one double are sorted. -/
theorem sortsIntegers_of_different (lt : x < y)
    (different : (Binary64.ofInt x).same (Binary64.ofInt y) = false) : SortsIntegers x y := by
  intro s table q field d rows found order limit offset stored finds
  obtain ⟨arranged, shown⟩ := exists_arrangement_of_find limit offset stored finds
  revert arranged
  rw [order]
  intro arranged shown
  exact ⟨arranged, shown, arranged.separates lt different⟩

/-- **When whole numbers are sorted as such.** Two whole numbers of 64 bits, signed or not, are sorted as
whole numbers if and only if the doubles nearest to them are different. -/
theorem sortsIntegers_iff (hx : Number.InRange x) (hy : Number.InRange y) (lt : x < y) :
    SortsIntegers x y ↔ (Binary64.ofInt x).same (Binary64.ofInt y) = false := by
  constructor
  · intro sorts
    by_contra same
    rw [Bool.not_eq_false] at same
    exact not_sortsIntegers_of_same hx hy same sorts
  · exact sortsIntegers_of_different lt

/-- The greatest signed number of 64 bits and an unsigned number above it. -/
theorem sortsIntegers_iff_of_large_numbers :
    Number.InRange 9223372036854775807 ∧ Number.InRange 9223372036854777856 ∧
      (9223372036854775807 : Int) < 9223372036854777856 ∧
      SortsIntegers 9223372036854775807 9223372036854777856 := by
  have x : Number.InRange 9223372036854775807 := by decide
  have y : Number.InRange 9223372036854777856 := by decide
  have lt : (9223372036854775807 : Int) < 9223372036854777856 := by decide
  exact ⟨x, y, lt, (sortsIntegers_iff x y lt).mpr (by decide +kernel)⟩

/-- Two numbers above 2⁵³ that are found in the order in which they came, the greater one first. -/
theorem large_integers_keep_their_places :
    ∃ x y q, Query.ofName "findAllOrderedById" [] = .ok q ∧ q.orderFields = [("id", none)] ∧
      q.limit = 0 ∧ q.offset = 0 ∧
      (Store.mk [("users", [numbered 9007199254740993 y, numbered 9007199254740992 x])]).find "users" q =
        .ok (.many [numbered 9007199254740993 y, numbered 9007199254740992 x]) ∧
      ¬ SortsIntegers 9007199254740992 9007199254740993 := by
  have x : Number.InRange 9007199254740992 := by decide
  have y : Number.InRange 9007199254740993 := by decide
  have same : (Binary64.ofInt 9007199254740992).same (Binary64.ofInt 9007199254740993) = true := by
    decide +kernel
  have swapped : (Binary64.ofInt 9007199254740993).same (Binary64.ofInt 9007199254740992) = true := by
    decide +kernel
  have tied := (hasInteger_numbered _ y).ties (d := none) (hasInteger_numbered _ x) swapped
  have still : ordered Query.byNumber.orderFields [numbered _ y, numbered _ x] =
      [numbered _ y, numbered _ x] := by
    apply List.mergeSort_of_pairwise
    rw [List.pairwise_pair]
    exact congrArg Ordering.isLE (Record.rowOrder_eq_eq_iff.mpr tied)
  refine ⟨x, y, .byNumber, rfl, rfl, rfl, rfl, ?_, not_sortsIntegers_of_same x y same⟩
  rw [find_of_counted rfl rfl, select, filter_agreesOn, filter_byNumber, still]
  rfl

end Store

end NameQuery
