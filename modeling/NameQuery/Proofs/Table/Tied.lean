import NameQuery.Proofs.Table.Integers
import NameQuery.Proofs.Table.Matching

/-!
# Order among equal values

Stored values that agree with one bind value are equal in the order of values
(`Value.cellOrder_eq_of_agrees`), also where the two are different numbers that are blurred with the bind
value. So the rows that match a query are tied on every field that the query compares, and to order them by
such fields leaves them as they are (`Store.find_unordered`).
-/

set_option autoImplicit false

namespace NameQuery

/-! ## Values -/

namespace Value

variable {v : Value} {x y : Json}

/-- A number that agrees with a whole number has the double that is nearest to it. -/
theorem toRat_of_int_agrees {a : Int64} {n : Number} (h : (Value.int a).agrees (.number n) = true) :
    (Binary64.ofInt a.toInt).toRat = n.toBinary64.toRat := by
  cases n with
  | float y => exact agrees_float_iff.mp h
  | whole n inRange =>
    rcases agrees_whole_iff.mp h with same | ⟨-, nearest⟩
    · rw [same]
      rfl
    · exact nearest

/-- What agrees with a bind value is equal to it in the order of values. -/
theorem cellOrder_toJson_of_agrees (h : v.agrees x = true) :
    Record.cellOrder (some v.toJson) (some x) = .eq := by
  cases v <;> cases x
  case null.null => rfl
  case bool.bool a b =>
    obtain rfl : a = b := eq_of_beq h
    exact Std.ReflCmp.compare_self
  case string.string a b =>
    obtain rfl : a = b := eq_of_beq h
    exact Std.ReflCmp.compare_self
  case int.number a n => exact compare_eq_iff_eq.mpr (Binary64.toRat_inj.mp (toRat_of_int_agrees h))
  case float.number y n => exact compare_eq_iff_eq.mpr (Binary64.toRat_inj.mp (float_agrees_iff.mp h).symm)
  -- values of two kinds
  all_goals exact absurd h Bool.false_ne_true

/-- Values that agree with one bind value are equal in the order of values. -/
theorem cellOrder_eq_of_agrees (hx : v.agrees x = true) (hy : v.agrees y = true) :
    Record.cellOrder (some x) (some y) = .eq :=
  Std.TransCmp.eq_trans (Std.OrientedCmp.eq_symm (cellOrder_toJson_of_agrees hx))
    (cellOrder_toJson_of_agrees hy)

end Value

/-! ## Rows -/

/-- Matching rows are tied on the fields that the query compares. -/
theorem Query.Matches.ties {q : Query} (counted : q.placeholderCount = q.values.length) {a b : Record}
    (ha : q.Matches a) (hb : q.Matches b) {entries : List (String × Option Direction)}
    (compared : ∀ e ∈ entries, e.1 ∈ q.filterFields) : Record.Ties entries a b := by
  intro entry hentry
  obtain ⟨i, inside, field⟩ := List.mem_iff_getElem.mp (compared entry hentry)
  have bound : i < q.values.length := counted ▸ inside
  have filtered : q.filterFields[i]? = some entry.1 := by rw [List.getElem?_eq_getElem inside, field]
  have value : q.values[i]? = some q.values[i] := List.getElem?_eq_getElem bound
  obtain ⟨x, hx, agreesX⟩ := ha i entry.1 _ filtered value
  obtain ⟨y, hy, agreesY⟩ := hb i entry.1 _ filtered value
  rw [hx, hy]
  exact Value.cellOrder_eq_of_agrees agreesX agreesY

namespace Store

/-- Rows that are all tied stay as they are. -/
theorem ordered_eq_self {entries : List (String × Option Direction)} {rows : List Record}
    (tied : ∀ a ∈ rows, ∀ b ∈ rows, Record.Ties entries a b) : ordered entries rows = rows := by
  apply List.mergeSort_of_pairwise
  apply List.pairwise_of_forall_mem_list
  intro a ha b hb
  rw [Record.rowOrder_eq_eq_iff.mpr (tied a ha b hb)]
  rfl

end Store

/-! ## Queries -/

def Query.unordered (q : Query) : Query := { q with order := "" }

namespace Store

variable {q : Query}

/-- An order by compared fields selects what no order selects. -/
theorem select_unordered (counted : q.placeholderCount = q.values.length)
    (compared : ∀ e ∈ q.orderFields, e.1 ∈ q.filterFields) (rows : List Record) :
    select q rows = select q.unordered rows := by
  have matching : ∀ row ∈ rows.filter (agreesOn q.filterFields q.values), q.Matches row :=
    fun row hrow => agreesOn_eq_true_iff.mp (List.mem_filter.mp hrow).2
  have tied : ∀ entries : List (String × Option Direction), (∀ e ∈ entries, e.1 ∈ q.filterFields) →
      ordered entries (rows.filter (agreesOn q.filterFields q.values)) =
        rows.filter (agreesOn q.filterFields q.values) := by
    intro entries compared
    apply ordered_eq_self
    intro a ha b hb
    exact (matching a ha).ties counted (matching b hb) compared
  have order : ordered q.unordered.orderFields (rows.filter (agreesOn q.filterFields q.values)) =
      rows.filter (agreesOn q.filterFields q.values) := tied _ nofun
  rw [select, tied q.orderFields compared]
  exact congrArg (fun arranged => (q.page arranged).map (Record.project q.columns)) order.symm

/-- **The filter and the order agree on what is equal.** Stored values that agree with one bind value are
equal in the order of values, so a query that orders by fields which it compares finds what it finds
without the order, whatever the directions. -/
theorem find_unordered :
    (∀ (v : Value) (x y : Json), v.agrees x = true → v.agrees y = true →
      Record.cellOrder (some x) (some y) = .eq) ∧
    ∀ (s : Store) (table : String) (q : Query), (∀ e ∈ q.orderFields, e.1 ∈ q.filterFields) →
      s.find table q = s.find table q.unordered :=
  ⟨fun _ _ _ => Value.cellOrder_eq_of_agrees,
    fun _ _ _ compared => find_congr rfl rfl rfl fun counted => select_unordered counted compared⟩

/-- Two different numbers that agree with one value keep their places under an order by them. -/
theorem find_unordered_of_blurred_numbers :
    ∃ (inRange : Number.InRange 9223372036854775807) (inRange' : Number.InRange 9223372036854775808)
      (q : Query),
      let x := Json.number (.whole 9223372036854775807 inRange)
      let y := Json.number (.whole 9223372036854775808 inRange')
      let s : Store := ⟨[("users", [numbered _ inRange', numbered _ inRange])]⟩
      (Value.int 9223372036854775807).agrees x = true ∧ (Value.int 9223372036854775807).agrees y = true ∧
      Record.cellOrder (some x) (some y) = .eq ∧
      q.filterFields = ["id"] ∧ q.orderFields = [("id", some .ascending)] ∧
      s.find "users" q = s.find "users" q.unordered := by
  have inRange : Number.InRange 9223372036854775807 := by decide
  have inRange' : Number.InRange 9223372036854775808 := by decide
  have same : (Value.int 9223372036854775807).agrees (.number (.whole _ inRange)) = true :=
    Value.agrees_whole_iff.mpr (.inl rfl)
  have blurred := (Value.blursWith_next inRange').agrees
  let q : Query := ⟨"", "id=?", "id asc", 0, 0, [.int 9223372036854775807]⟩
  have compared : q.filterFields = ["id"] := by decide
  have order : q.orderFields = [("id", some .ascending)] := by decide
  refine ⟨inRange, inRange', q, same, blurred, find_unordered.1 _ _ _ same blurred, compared, order, ?_⟩
  apply find_unordered.2
  rw [order, compared]
  intro entry ordered
  obtain rfl : entry = ("id", some .ascending) := List.mem_singleton.mp ordered
  exact List.mem_singleton.mpr rfl

end Store

end NameQuery
