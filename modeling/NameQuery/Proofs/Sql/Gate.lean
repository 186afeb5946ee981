import Mathlib
import NameQuery.Sql.Statement

/-!
# The gate before a statement

Field names go into SQL text as they are, so a query has a statement only if every field that it
reads from its clauses is an identifier. Here that condition is said of the query itself
(`Statement.check_eq_ok_iff`), with what a query that passes is made into
(`Statement.ofQuery_eq_ok_iff`) and what any other one is refused for (`Statement.check_eq_error`).
-/

set_option autoImplicit false

namespace NameQuery

/-! ## Identifiers -/

/-- An identifier has characters, all of them small letters, digits or underscores. -/
theorem isIdentifier_iff {s : String} : isIdentifier s = true ↔
    s ≠ "" ∧ ∀ c ∈ s.toList, (c.isLower || c.isDigit || c = '_') = true := by
  have nonempty : s.toList ≠ [] ↔ s ≠ "" := by
    rw [Ne, Ne, ← String.toList_inj]
    exact Iff.rfl
  rw [isIdentifier, Bool.and_eq_true, List.all_eq_true, Bool.not_eq_true', ← nonempty,
    Bool.eq_false_iff, Ne, List.isEmpty_iff]

/-- An identifier has none of the characters that SQL text gives a meaning to. -/
theorem not_mem_of_isIdentifier {s : String} (h : isIdentifier s = true) {c : Char}
    (hc : (c.isLower || c.isDigit || c = '_') = false) : c ∉ s.toList := fun hmem => by
  have := (isIdentifier_iff.mp h).2 c hmem
  rw [hc] at this
  cases this

/-- An identifier has no capital. -/
theorem isUpper_of_isIdentifier {s : String} (h : isIdentifier s = true) {c : Char}
    (hc : c ∈ s.toList) : c.isUpper = false := by
  have class_ := (isIdentifier_iff.mp h).2 c hc
  simp only [Bool.or_eq_true, decide_eq_true_eq] at class_
  rw [Bool.eq_false_iff]
  rcases class_ with (lower | digit) | rfl
  · exact Char.not_isUpper_of_isLower lower
  · intro upper
    simp [Char.isDigit, Char.isUpper, UInt32.le_iff_toNat_le] at digit upper
    omega
  · decide

/-! ## Checks -/

namespace Statement

/-- Fields pass if each of them is an identifier. -/
theorem checkFields_eq_ok_iff {clause : String} {fields : List String} :
    checkFields clause fields = .ok () ↔ ∀ f ∈ fields, isIdentifier f = true := by
  induction fields with
  | nil => simp [checkFields]
  | cons f fs ih =>
    rw [checkFields, List.forall_mem_cons]
    by_cases hf : isIdentifier f = true
    · rw [if_pos hf, ih, and_iff_right hf]
    · rw [if_neg hf]
      exact ⟨nofun, fun h => absurd h.1 hf⟩

/-- A query passes the gate if the fields of all three clauses are identifiers. -/
theorem check_eq_ok_iff {q : Query} : check q = .ok () ↔
    (∀ f ∈ q.columns, isIdentifier f = true) ∧ (∀ f ∈ q.filterFields, isIdentifier f = true) ∧
      ∀ e ∈ q.orderFields, isIdentifier e.1 = true := by
  have both : ∀ {a b : Except Failure Unit}, (do a; b) = .ok () ↔ a = .ok () ∧ b = .ok () := by
    rintro (e | ⟨⟩) b
    · exact ⟨nofun, fun h => nomatch h.1⟩
    · exact ⟨fun h => ⟨rfl, h⟩, fun h => h.2⟩
  rw [check, both, both, checkFields_eq_ok_iff, checkFields_eq_ok_iff, checkFields_eq_ok_iff]
  simp only [List.forall_mem_map]

/-- Fields are refused for one of them that is no identifier. -/
theorem checkFields_eq_error {clause : String} {fields : List String} {why : Failure}
    (h : checkFields clause fields = .error why) :
    ∃ f ∈ fields, isIdentifier f = false ∧ why = .invalidField clause f := by
  induction fields with
  | nil => cases h
  | cons f fs ih =>
    rw [checkFields] at h
    split at h
    case isTrue =>
      obtain ⟨g, hg, other, rfl⟩ := ih h
      exact ⟨g, List.mem_cons_of_mem _ hg, other, rfl⟩
    case isFalse hf =>
      cases h
      exact ⟨f, List.mem_cons_self, by simpa using hf, rfl⟩

/-- A query that does not pass the gate is refused for a field that is no identifier. -/
theorem check_eq_error {q : Query} {why : Failure} (h : check q = .error why) :
    ∃ clause field, isIdentifier field = false ∧ why = .invalidField clause field := by
  have field : ∀ {clause : String} {fields : List String}, checkFields clause fields = .error why →
      ∃ clause field, isIdentifier field = false ∧ why = .invalidField clause field := by
    intro clause fields hf
    obtain ⟨f, -, other, rfl⟩ := checkFields_eq_error hf
    exact ⟨clause, f, other, rfl⟩
  rw [check] at h
  cases columns : checkFields "select" q.columns with
  | error e =>
    rw [columns] at h
    exact field (columns.trans h)
  | ok =>
    cases predicates : checkFields "where" q.filterFields with
    | error e =>
      rw [columns, predicates] at h
      exact field (predicates.trans h)
    | ok =>
      rw [columns, predicates] at h
      exact field h

/-- A query that passes the gate is made into one statement, whose clauses are the query's own. -/
theorem ofQuery_eq_ok_iff {q : Query} {table : String} {s : Statement} :
    ofQuery q table = .ok s ↔ check q = .ok () ∧ s = {
      columns := if q.select.isEmpty then ["*"] else (Text.pieces ',' q.select.toList).map String.ofList
      table := table
      predicates := q.predicates.map predicateOf
      order := if q.order.isEmpty then none else some q.orderFields
      limit := q.limit
      offset := q.offset } := by
  rw [ofQuery]
  cases check q with
  | error e => exact ⟨nofun, fun h => nomatch h.1⟩
  | ok u => exact ⟨fun h => ⟨rfl, (Except.ok.inj h).symm⟩, fun h => h.2 ▸ rfl⟩

end Statement

/-- SQL text is the text of a statement. -/
theorem Query.sql_eq_ok_iff {q : Query} {style : Placeholder} {table text : String} :
    q.sql style table = .ok text ↔
      ∃ s, Statement.ofQuery q table = .ok s ∧ s.text style = text := by
  rw [sql]
  cases Statement.ofQuery q table with
  | error e => exact ⟨nofun, fun ⟨_, h, _⟩ => (nomatch h)⟩
  | ok s => exact ⟨fun h => ⟨s, rfl, Except.ok.inj h⟩, fun ⟨_, hs, ht⟩ => by cases hs; rw [← ht]; rfl⟩

/-- A query has SQL text exactly if it passes the gate. -/
theorem Query.exists_sql_iff {q : Query} {style : Placeholder} {table : String} :
    (∃ text, q.sql style table = .ok text) ↔ Statement.check q = .ok () := by
  rw [sql, Statement.ofQuery]
  cases Statement.check q with
  | error e => exact ⟨fun ⟨_, h⟩ => (nomatch h), nofun⟩
  | ok u => exact ⟨fun _ => rfl, fun _ => ⟨_, rfl⟩⟩

/-- What a query without SQL text is refused for is what the gate refuses it for. -/
theorem Query.sql_eq_error_iff {q : Query} {style : Placeholder} {table : String} {why : Failure} :
    q.sql style table = .error why ↔ Statement.check q = .error why := by
  rw [sql, Statement.ofQuery]
  cases Statement.check q with
  | error e => exact ⟨fun h => by cases h; rfl, fun h => by cases h; rfl⟩
  | ok u => exact ⟨nofun, nofun⟩

end NameQuery
