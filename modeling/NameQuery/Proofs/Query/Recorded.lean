import NameQuery.Proofs.Name.Fields
import NameQuery.Proofs.Query.Clauses
import NameQuery.Proofs.Sql.Gate

/-!
# Queries of identifiers

Where all fields that a name records are identifiers, its query reads as what was recorded
(`columns_query`, `filterFields_query`, `orderFields_query`) and has a statement, in which each predicate
has one placeholder (`ofQuery_query`). Limit and offset do not matter for that, so they are left open
here (`Name.Recorded.query`).
-/

set_option autoImplicit false

namespace NameQuery.Name.Recorded

/-- The query of recorded fields, with any limit and offset. -/
def query (r : Recorded) (args : List Value) (limit offset : UInt64) : Query :=
  { Query.ofClauses r.clauses args with limit, offset }

/-- The items between SELECT and FROM. Without any, every column is selected. -/
def items (r : Recorded) : List String := if r.clauses.select.isEmpty then ["*"] else r.clauses.select

/-- The statement of recorded fields, with any limit and offset. -/
def statement (r : Recorded) (table : String) (limit offset : UInt64) : Statement where
  columns := r.items
  table := table
  predicates := r.predicates.map fun f => ⟨f, 1⟩
  order := r.order.map fun e => [e]
  limit := limit
  offset := offset

variable {r : Recorded} {args : List Value} {limit offset : UInt64}

/-- The items are columns, or stars and at least one of them. -/
theorem items_eq (unmixed : r.columns = [] ∨ r.everys = 0) :
    (r.columns = [] ∧ r.items = List.replicate (max r.everys 1) "*") ∨
      (r.columns ≠ [] ∧ r.items = r.columns) := by
  by_cases none : r.columns = []
  · refine .inl ⟨none, ?_⟩
    rw [items, clauses, none, List.nil_append]
    cases r.everys with
    | zero => rfl
    | succ n => simp [List.replicate_succ]
  · refine .inr ⟨none, ?_⟩
    rw [items, clauses, unmixed.resolve_left none, List.replicate_zero, List.append_nil,
      if_neg (by simpa using none)]

/-- Something is selected. -/
theorem items_ne_nil : r.items ≠ [] := by
  unfold items
  split
  · exact List.cons_ne_nil _ _
  · next some => simpa using some

/-- An item is a star or a column. -/
theorem eq_star_or_mem_columns {c : String} (h : c ∈ r.items) : c = "*" ∨ c ∈ r.columns := by
  unfold items at h
  split at h
  · exact .inl (List.mem_singleton.mp h)
  · rcases List.mem_append.mp h with h | h
    · exact .inr h
    · exact .inl (List.eq_of_mem_replicate h)

/-- A predicate of a name is one piece between the separators of the filter, and not empty. -/
theorem plain_filters (absent : ∀ w ∈ r.predicates, 'A' ∉ w.toList) :
    ∀ t ∈ r.clauses.filters, t ≠ "" ∧ 'A' ∉ t.toList := by
  intro t ht
  obtain ⟨w, hw, rfl⟩ := List.mem_map.mp ht
  refine ⟨fun he => ?_, by simp [absent w hw]⟩
  simpa using congrArg String.toList he

section

variable (identifiers : ∀ f ∈ r.fields, isIdentifier f = true)

include identifiers

theorem isIdentifier_columns : ∀ f ∈ r.columns, isIdentifier f = true :=
  fun f hf => identifiers f (List.mem_append_left _ (List.mem_append_left _ hf))

theorem isIdentifier_predicates : ∀ f ∈ r.predicates, isIdentifier f = true :=
  fun f hf => identifiers f (List.mem_append_left _ (List.mem_append_right _ hf))

theorem isIdentifier_order : ∀ e ∈ r.order, isIdentifier e.1 = true := by
  intro e he
  exact identifiers e.1 (List.mem_append_right _ (by rw [he]; exact List.mem_cons_self))

/-- Every item is one piece between commas, and not empty. -/
theorem plain_select : ∀ w ∈ r.clauses.select, w ≠ "" ∧ ',' ∉ w.toList := by
  intro w hw
  rcases List.mem_append.mp hw with hw | hw
  · have identifier := isIdentifier_columns identifiers w hw
    exact ⟨(isIdentifier_iff.mp identifier).1, not_mem_of_isIdentifier identifier (by decide)⟩
  · rw [List.eq_of_mem_replicate hw]
    decide

/-- A query of recorded identifiers reads back its columns. -/
theorem columns_query : (r.query args limit offset).columns = r.columns := by
  have kept : r.columns.filter (· ≠ "*") = r.columns := by
    refine List.filter_eq_self.mpr fun w hw => decide_eq_true ?_
    rintro rfl
    exact absurd (isIdentifier_columns identifiers _ hw) (by decide)
  have stars : (List.replicate r.everys "*").filter (· ≠ "*") = [] := by
    rw [List.filter_eq_nil_iff]
    intro w hw
    simp [List.eq_of_mem_replicate hw]
  have read : (Query.ofClauses r.clauses args).columns = r.clauses.select.filter (· ≠ "*") :=
    Query.columns_ofClauses (plain_select identifiers)
  exact read.trans (by rw [clauses, List.filter_append, kept, stars, List.append_nil])

/-- The predicates of the filter. -/
theorem predicates_query :
    (r.query args limit offset).predicates = r.predicates.map fun f => f.toList ++ ['=', '?'] := by
  have filters : ∀ t ∈ r.clauses.filters, t ≠ "" ∧ 'A' ∉ t.toList :=
    plain_filters fun w hw =>
      not_mem_of_isIdentifier (isIdentifier_predicates identifiers w hw) (by decide)
  have read : (Query.ofClauses r.clauses args).predicates = r.clauses.filters.map String.toList :=
    Query.predicates_ofClauses filters
  refine read.trans ?_
  rw [clauses, List.map_map]
  exact List.map_congr_left fun w _ => String.toList_append

/-- A predicate without its mark is its field. -/
theorem withoutMarks_predicate {f : String} (h : f ∈ r.predicates) :
    Query.withoutMarks (f.toList ++ ['=', '?']) = f.toList := by
  have unmarked : '?' ∉ f.toList :=
    not_mem_of_isIdentifier (isIdentifier_predicates identifiers f h) (by decide)
  rw [Query.withoutMarks_append_mark, Query.withoutMarks_eq_self unmarked]

/-- A query of recorded identifiers reads back the fields of its predicates. -/
theorem filterFields_query : (r.query args limit offset).filterFields = r.predicates := by
  rw [Query.filterFields, predicates_query identifiers, List.map_map]
  refine (List.map_congr_left fun f hf => ?_).trans (List.map_id _)
  rw [Function.comp_apply, withoutMarks_predicate identifiers hf, String.ofList_toList, id]

/-- An order entry is one piece between commas, and not empty. -/
theorem plain_order : ∀ t ∈ r.clauses.order, t ≠ "" ∧ ',' ∉ t.toList := by
  intro t ht
  obtain ⟨⟨f, d⟩, he, rfl⟩ : ∃ e ∈ r.order, entryText e = t := by
    simpa [clauses] using ht
  have identifier : isIdentifier f = true := isIdentifier_order identifiers _ he
  have absent : ',' ∉ f.toList := not_mem_of_isIdentifier identifier (by decide)
  rcases d with - | - | -
  · exact ⟨(isIdentifier_iff.mp identifier).1, absent⟩
  all_goals
    refine ⟨fun he => ?_, by simp [entryText, Direction.word, absent]⟩
    simpa [entryText] using congrArg String.toList he

/-- A query of recorded identifiers reads back its order entry. -/
theorem orderFields_query : (r.query args limit offset).orderFields = r.order.toList := by
  have read : (Query.ofClauses r.clauses args).orderFields =
      r.clauses.order.map fun e => Query.orderField e.toList :=
    Query.orderFields_ofClauses (plain_order identifiers)
  refine read.trans ?_
  rw [clauses]
  cases he : r.order with
  | none => rfl
  | some e =>
    have unspaced : ' ' ∉ e.1.toList :=
      not_mem_of_isIdentifier (isIdentifier_order identifiers e he) (by decide)
    simp [Query.orderField_entryText unspaced]

/-- There is an order text exactly if an order is recorded. -/
theorem order_query :
    (if (r.query args limit offset).order.isEmpty then none
      else some (r.query args limit offset).orderFields) = r.order.map fun e => [e] := by
  have empty : (r.query args limit offset).order = "" ↔ r.clauses.order = [] :=
    Query.intercalate_eq_empty fun t ht => (plain_order identifiers t ht).1
  rw [orderFields_query identifiers]
  simp only [String.isEmpty_iff, empty, clauses]
  cases r.order <;> simp

/-- The query passes the gate. -/
theorem check_query : Statement.check (r.query args limit offset) = .ok () := by
  rw [Statement.check_eq_ok_iff, columns_query identifiers, filterFields_query identifiers,
    orderFields_query identifiers]
  exact ⟨isIdentifier_columns identifiers, isIdentifier_predicates identifiers,
    fun e he => isIdentifier_order identifiers e (Option.mem_toList.mp he)⟩

/-- The select text comes apart into the items. -/
theorem select_query :
    (if (r.query args limit offset).select.isEmpty then ["*"]
      else (Text.pieces ',' (r.query args limit offset).select.toList).map String.ofList) = r.items := by
  have plain := plain_select identifiers
  have select : (r.query args limit offset).select = ",".intercalate r.clauses.select := rfl
  rw [select, items]
  by_cases none : r.clauses.select = []
  · rw [none]
    rfl
  · have ne : ",".intercalate r.clauses.select ≠ "" := fun he =>
      none ((Query.intercalate_eq_empty fun w hw => (plain w hw).1).mp he)
    have pieces : Text.pieces ',' (",".intercalate r.clauses.select).toList =
        r.clauses.select.map String.toList := by
      rw [String.toList_intercalate]
      refine Text.pieces_intercalate (fun p hp => ?_) (by simpa using none)
      obtain ⟨w, hw, rfl⟩ := List.mem_map.mp hp
      exact (plain w hw).2
    rw [if_neg (fun he => ne (String.isEmpty_iff.mp he)), if_neg (by simpa using none), pieces,
      List.map_map]
    exact (List.map_congr_left fun w _ => String.ofList_toList).trans (List.map_id _)

/-- A recorded predicate is compared with one placeholder. -/
theorem predicateOf_predicate {f : String} (h : f ∈ r.predicates) :
    Statement.predicateOf (f.toList ++ ['=', '?']) = ⟨f, 1⟩ := by
  rw [Statement.predicateOf, withoutMarks_predicate identifiers h, String.ofList_toList]
  simp

/-- The statement of recorded identifiers. -/
theorem ofQuery_query (table : String) :
    Statement.ofQuery (r.query args limit offset) table = .ok (r.statement table limit offset) := by
  refine Statement.ofQuery_eq_ok_iff.mpr ⟨check_query identifiers, ?_⟩
  have predicates : (r.query args limit offset).predicates.map Statement.predicateOf =
      r.predicates.map fun f => ⟨f, 1⟩ := by
    rw [predicates_query identifiers, List.map_map]
    exact List.map_congr_left fun f hf => predicateOf_predicate identifiers hf
  rw [select_query identifiers, predicates, order_query identifiers]
  rfl

end

end NameQuery.Name.Recorded

namespace NameQuery.Name

/-- The predicates of a name come apart again, whatever characters its words are made of: they have no
capitals. -/
theorem Records.plain_filters {name : String} {r : Recorded} (h : Records name r) :
    ∀ t ∈ r.clauses.filters, t ≠ "" ∧ 'A' ∉ t.toList := by
  refine Recorded.plain_filters fun w hw capital => ?_
  have field : w ∈ r.fields := List.mem_append_left _ (List.mem_append_right _ hw)
  have small := (h.isSmallWord w field).isUpper 'A' capital
  cases small

end NameQuery.Name
