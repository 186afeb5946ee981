import NameQuery.Proofs.Query.Recorded

/-!
# The statement of a name

Words that are identifiers always have SQL text, and it says what they record: the columns, each predicate
with one placeholder, the order entry with its direction, and a limit of one where one row is asked for
(`Query.sql_of_identifiers`). The text is not made from the words. Their fields are joined to three texts
first, and these are cut again and checked, so what is proved here rests on what comes back from them
(`Name.Recorded.ofQuery_query`).

A placeholder belongs to the predicate before it (`Name.Recorded.exists_placeholder`): as many question
marks stand before it as there are predicates before its own, whether fields are repeated or not.
-/

set_option autoImplicit false

namespace NameQuery

namespace Name.Recorded

/-! ## The text that is said -/

def closing (r : Recorded) : String :=
  r.order.elim "" (fun entry => " ORDER BY " ++ Statement.orderText entry) ++
  (if r.one then " LIMIT 1" else "")

/-- What follows the table: the predicates with their placeholders, the order and the limit. -/
def tail (r : Recorded) : String :=
  (if r.predicates = [] then "" else " WHERE " ++ " AND ".intercalate (r.predicates.map (· ++ " = ?"))) ++
  r.closing

/-- The text of what is recorded, for a table. -/
def text (r : Recorded) (table : String) : String :=
  "SELECT " ++ (if r.clauses.select = [] then "*" else ", ".intercalate r.clauses.select) ++
    " FROM " ++ table ++ r.tail

variable {r : Recorded}

/-- Predicates with one placeholder each. -/
theorem predicateTexts_question (n : Nat) (fields : List String) :
    Statement.predicateTexts .question n (fields.map fun f => ⟨f, 1⟩) = fields.map (· ++ " = ?") := by
  induction fields generalizing n with
  | nil => rfl
  | cons f fields ih =>
    have text : Statement.predicateText .question n ⟨f, 1⟩ = f ++ " = ?" := by
      simp [Statement.predicateText, Statement.placeholderText]
    rw [List.map_cons, Statement.predicateTexts, text, ih, List.map_cons]

/-- What follows the table in a statement of what is recorded. -/
theorem tail_statement (r : Recorded) (table : String) :
    (r.statement table (if r.one then 1 else 0) 0).tail .question = r.tail := by
  let s := r.statement table (if r.one then 1 else 0) 0
  have predicates : (if s.predicates.isEmpty then ""
      else " WHERE " ++ " AND ".intercalate (Statement.predicateTexts .question 1 s.predicates)) =
      if r.predicates = [] then ""
      else " WHERE " ++ " AND ".intercalate (r.predicates.map (· ++ " = ?")) := by
    simp only [s, statement, predicateTexts_question, List.isEmpty_map, List.isEmpty_iff]
  have limit : (if s.limit = 0 then "" else " LIMIT " ++ toString s.limit.toNat) =
      if r.one then " LIMIT 1" else "" := by
    have stated : s.limit = if r.one then 1 else 0 := rfl
    rw [stated]
    cases r.one <;> rfl
  rw [Statement.tail, predicates, limit, tail, closing]
  cases order : r.order with
  | none => simp [statement, order]
  | some entry => simp [statement, order, String.append_assoc]

/-- The statement of what is recorded has its text. -/
theorem text_statement (r : Recorded) (table : String) :
    (r.statement table (if r.one then 1 else 0) 0).text .question = r.text table := by
  have items : ", ".intercalate r.items =
      if r.clauses.select = [] then "*" else ", ".intercalate r.clauses.select := by
    rw [Recorded.items]
    by_cases none : r.clauses.select = []
    · rw [if_pos none, none]
      rfl
    · rw [if_neg none, if_neg (by simpa using none)]
  rw [Statement.text, tail_statement, text, ← items]
  rfl

/-! ## Placeholders -/

/-- A comparison has as many placeholders before it as there are comparisons before it. -/
theorem exists_comparison {fields : List String} (unmarked : ∀ f ∈ fields, '?' ∉ f.toList) {k : Nat}
    {field : String} (h : fields[k]? = some field) :
    ∃ before after, " " ++ " AND ".intercalate (fields.map (· ++ " = ?")) =
      before ++ (" " ++ field ++ " = ?") ++ after ∧ before.toList.count '?' = k := by
  induction fields generalizing k with
  | nil => cases h
  | cons f fields ih =>
    cases k with
    | zero =>
      cases h
      cases fields with
      | nil => exact ⟨"", "", by simp [String.append_assoc], rfl⟩
      | cons g fields =>
        refine ⟨"", " AND " ++ " AND ".intercalate ((g :: fields).map (· ++ " = ?")), ?_, rfl⟩
        rw [List.map_cons, List.map_cons, String.intercalate_cons_cons]
        simp only [String.append_assoc, String.empty_append]
    | succ k =>
      have behind : fields[k]? = some field := h
      obtain ⟨before, after, rest, count⟩ := ih (fun g hg => unmarked g (List.mem_cons_of_mem _ hg)) behind
      obtain ⟨g, others, rfl⟩ := List.exists_cons_of_ne_nil (List.ne_nil_of_mem (List.mem_of_getElem? behind))
      have separator : " AND " = " AND" ++ " " := rfl
      have first : " " ++ " AND ".intercalate ((f :: g :: others).map (· ++ " = ?")) =
          " " ++ f ++ " = ?" ++ " AND" ++ (" " ++ " AND ".intercalate ((g :: others).map (· ++ " = ?"))) := by
        rw [List.map_cons, List.map_cons, String.intercalate_cons_cons]
        nth_rewrite 1 [separator]
        simp only [String.append_assoc]
      refine ⟨" " ++ f ++ " = ?" ++ " AND" ++ before, after, ?_, ?_⟩
      · rw [first, rest]
        simp only [String.append_assoc]
      · have none := List.count_eq_zero_of_not_mem (unmarked f List.mem_cons_self)
        simp [none, count]

/-- As many placeholders stand before that of a predicate as there are predicates before it. -/
theorem exists_placeholder (unmarked : ∀ f ∈ r.predicates, '?' ∉ f.toList) {k : Nat} {field : String}
    (h : r.predicates[k]? = some field) :
    ∃ before after, r.tail = before ++ (" " ++ field ++ " = ?") ++ after ∧ before.toList.count '?' = k := by
  obtain ⟨before, after, comparisons, count⟩ := exists_comparison unmarked h
  have some : r.predicates ≠ [] := List.ne_nil_of_mem (List.mem_of_getElem? h)
  have word : " WHERE " = " WHERE" ++ " " := rfl
  refine ⟨" WHERE" ++ before, after ++ r.closing, ?_, by simpa using count⟩
  have apart : r.tail =
      " WHERE" ++ (" " ++ " AND ".intercalate (r.predicates.map (· ++ " = ?"))) ++ r.closing := by
    rw [tail, if_neg some, word]
    simp only [String.append_assoc]
  rw [apart, comparisons]
  simp only [String.append_assoc]

/-- Comparisons have one placeholder each. -/
theorem count_comparisons {fields : List String} (unmarked : ∀ f ∈ fields, '?' ∉ f.toList) :
    (" AND ".intercalate (fields.map (· ++ " = ?"))).toList.count '?' = fields.length := by
  have separator : '?' ∉ " AND ".toList := by decide
  have one : ∀ f ∈ fields, ((List.count '?' ∘ String.toList) ∘ (· ++ " = ?")) f = 1 := by
    intro f hf
    have none := List.count_eq_zero_of_not_mem (unmarked f hf)
    simp [none]
  rw [String.toList_intercalate, Text.count_intercalate separator, List.map_map, List.map_map,
    List.map_congr_left one, List.map_const', List.sum_replicate, smul_eq_mul, Nat.mul_one]

/-- No placeholder stands behind the predicates. -/
theorem count_closing (unmarked : ∀ e ∈ r.order, '?' ∉ e.1.toList) : r.closing.toList.count '?' = 0 := by
  have limit : (if r.one then " LIMIT 1" else "").toList.count '?' = 0 := by
    cases r.one <;> decide
  have order : (r.order.elim "" fun e => " ORDER BY " ++ Statement.orderText e).toList.count '?' = 0 := by
    rcases he : r.order with - | ⟨f, - | - | -⟩
    · rfl
    all_goals simp [Statement.orderText, List.count_eq_zero_of_not_mem (unmarked _ he)]
  rw [closing, String.toList_append, List.count_append, order, limit]

/-- Behind the table there are the placeholders of the predicates and no others. -/
theorem count_tail (unmarked : ∀ f ∈ r.predicates, '?' ∉ f.toList)
    (unordered : ∀ e ∈ r.order, '?' ∉ e.1.toList) : r.tail.toList.count '?' = r.predicates.length := by
  rw [tail, String.toList_append, List.count_append, count_closing unordered, Nat.add_zero]
  by_cases none : r.predicates = []
  · rw [if_pos none, none]
    rfl
  · have word : " WHERE ".toList.count '?' = 0 := by decide
    rw [if_neg none, String.toList_append, List.count_append, word, Nat.zero_add, count_comparisons unmarked]

end Name.Recorded

namespace Query

/-- **Names of identifiers render to what their words say.** Words that are identifiers and are read well
have SQL text for every table, whatever the values. It selects the columns and a star for each `all` and
`one`, or a star if there are none, compares each predicate with one placeholder, orders by the order entry
with its direction, and is limited to one row exactly if a `one` is consumed. The placeholder of a
predicate has as many others before it as there are predicates before its own. -/
theorem sql_of_identifiers {ws : List String} (identifiers : ∀ w ∈ ws, isIdentifier w = true)
    (ok : (Name.readWords ws {}).failure = none) (values : List Value) (table : String) :
    ∃ (consumed : List String) (r : Name.Recorded), Name.WordsRecord ws consumed r ∧
      (ofClauses (Name.readWords ws {}).clauses values).sql .question table = .ok (r.text table) ∧
      r.tail.toList.count '?' = r.predicates.length ∧
      ∀ k field, r.predicates[k]? = some field → ∃ before after,
        r.tail = before ++ (" " ++ field ++ " = ?") ++ after ∧ before.toList.count '?' = k := by
  obtain ⟨consumed, r, record⟩ := Name.exists_wordsRecord ok
  have fields : ∀ f ∈ r.fields, isIdentifier f = true := by
    intro f hf
    have mem : f ∈ consumed := Name.Recorded.mem_of_mem_fields record.fields hf
    exact identifiers f (record.split ▸ List.mem_append_left _ mem)
  have unmarked : ∀ f ∈ r.predicates, '?' ∉ f.toList := fun f hf =>
    not_mem_of_isIdentifier (Name.Recorded.isIdentifier_predicates fields f hf) (by decide)
  have unordered : ∀ e ∈ r.order, '?' ∉ e.1.toList := fun e he =>
    not_mem_of_isIdentifier (Name.Recorded.isIdentifier_order fields e he) (by decide)
  have query : ofClauses r.clauses values = r.query values (if r.one then 1 else 0) 0 := by
    rw [ofClauses, Name.Recorded.query, ofClauses, Name.Recorded.clauses]
    cases r.one <;> rfl
  refine ⟨consumed, r, record, ?_, Name.Recorded.count_tail unmarked unordered,
    fun k field h => Name.Recorded.exists_placeholder unmarked h⟩
  rw [record.clauses, query, sql_eq_ok_iff]
  exact ⟨_, Name.Recorded.ofQuery_query fields table, r.text_statement table⟩

theorem sql_of_identifiers_of_repeated_fields :
    let ws := ["asc", "1a", "one", "by", "desc", "asc", "asc", "ordered", "by", "desc", "asc", "by", "id"]
    let sql := "SELECT asc, 1a, * FROM users WHERE desc = ? AND asc = ? AND asc = ? ORDER BY desc ASC LIMIT 1"
    (∀ w ∈ ws, isIdentifier w = true) ∧ (Name.readWords ws {}).failure = none ∧
      (ofClauses (Name.readWords ws {}).clauses []).sql .question "users" = .ok sql ∧
      ∃ consumed r, Name.WordsRecord ws consumed r ∧ r.text "users" = sql := by
  intro ws sql
  have identifiers : ∀ w ∈ ws, isIdentifier w = true := by decide
  have ok : (Name.readWords ws {}).failure = none := by decide
  have text : Statement.text .question ⟨["asc", "1a", "*"], "users", [⟨"desc", 1⟩, ⟨"asc", 1⟩, ⟨"asc", 1⟩],
    some [("desc", some .ascending)], 1, 0⟩ = sql := by decide +kernel
  have query : ofClauses (Name.readWords ws {}).clauses [] =
    ⟨"asc,1a,*", "desc=? AND asc=? AND asc=?", "desc asc", 1, 0, []⟩ := rfl
  have rendered : (ofClauses (Name.readWords ws {}).clauses []).sql .question "users" = .ok sql := by
    rw [query]
    exact congrArg Except.ok text
  obtain ⟨consumed, r, record, said, -, -⟩ := sql_of_identifiers identifiers ok [] "users"
  exact ⟨identifiers, ok, rendered, consumed, r, record, Except.ok.inj (said.symm.trans rendered)⟩

end Query

end NameQuery
