import NameQuery.Proofs.Sql.Numbering

/-!
# SQL text pasted from the clauses

`Query.sql` reads a query into a statement and writes the statement. The clauses of a query are texts
already, and their texts can go into the SQL text without being read: every comma of the columns with a
blank behind it, every question mark of the filter numbered where the style has numbers, and every equals
sign of the filter between blanks (`Query.pasted`). Only the order entries are read, for their directions.

What is proved is that this is the same text, for every query, style and table (`Query.sql_eq_pasted`). It
rests on the gate: without it a field could hold an equals sign or a question mark of its own, which
pasting changes and a statement does not have.
-/

set_option autoImplicit false

namespace NameQuery

/-! ## Replacing a character -/

/-- A text with another text in place of every occurrence of a character. -/
def Text.replace (c : Char) (other cs : List Char) : List Char :=
  cs.flatMap fun d => if d = c then other else [d]

namespace Text

variable {c : Char} {other : List Char}

theorem replace_cons_self (c : Char) (other cs : List Char) :
    replace c other (c :: cs) = other ++ replace c other cs := by
  rw [replace, List.flatMap_cons, if_pos rfl, replace]

theorem replace_cons_of_ne {d : Char} (h : d ≠ c) (cs : List Char) :
    replace c other (d :: cs) = d :: replace c other cs := by
  rw [replace, List.flatMap_cons, if_neg h, replace, List.singleton_append]

theorem replace_append (c : Char) (other cs ds : List Char) :
    replace c other (cs ++ ds) = replace c other cs ++ replace c other ds := List.flatMap_append

theorem replace_eq_self {cs : List Char} (h : c ∉ cs) : replace c other cs = cs := by
  induction cs with
  | nil => rfl
  | cons d cs ih =>
    rw [List.mem_cons, not_or] at h
    rw [replace_cons_of_ne (Ne.symm h.1), ih h.2]

/-- Replacing a separator is cutting at it and joining with what stands in its place. -/
theorem intercalate_pieces (c : Char) (other cs : List Char) :
    other.intercalate (pieces c cs) = replace c other cs := by
  induction cs with
  | nil => rfl
  | cons d cs ih =>
    obtain ⟨p, ps, cut⟩ := List.exists_cons_of_ne_nil (pieces_ne_nil c cs)
    by_cases same : d = c
    · rw [pieces, if_pos same, List.intercalate_cons_of_ne_nil (pieces_ne_nil c cs), ih, same,
        replace_cons_self, List.nil_append]
    · rw [pieces, if_neg same, cut, List.modifyHead_cons, List.intercalate_cons_cons_left, ← cut, ih,
        replace_cons_of_ne same]

/-- A character that is not in the separator is replaced in each of the joined pieces. -/
theorem replace_intercalate {sep : List Char} (h : c ∉ sep) (ps : List (List Char)) :
    replace c other (sep.intercalate ps) = sep.intercalate (ps.map (replace c other)) := by
  induction ps with
  | nil => rfl
  | cons p ps ih =>
    cases ps with
    | nil => simp
    | cons r ps =>
      rw [List.intercalate_cons_cons, replace_append, replace_append, replace_eq_self h, ih]
      simp

end Text

open Text (replace)

/-! ## The pasted text -/

namespace Query

/-- The filter of a query with its placeholders written in a style. -/
def styledFilter (q : Query) : Placeholder → List Char
  | .question => q.filter.toList
  | .dollar => numberedFrom 1 q.filter.toList

/-- The columns of a query as its text has them, with a blank behind every comma. -/
def pastedColumns (q : Query) : String :=
  if q.select.isEmpty then "*" else String.ofList (replace ',' ", ".toList q.select.toList)

/-- The filter of a query as its text has it, with blanks around every equals sign. -/
def pastedFilter (q : Query) (style : Placeholder) : String :=
  String.ofList (replace '=' " = ".toList (q.styledFilter style))

theorem toList_pastedFilter (q : Query) (style : Placeholder) :
    (q.pastedFilter style).toList = replace '=' " = ".toList (q.styledFilter style) := String.toList_ofList

/-- The SQL text of a query over a table, from the texts of its clauses. -/
def pasted (q : Query) (style : Placeholder) (table : String) : Except Failure String := do
  Statement.check q
  .ok ("SELECT " ++ q.pastedColumns ++ " FROM " ++ table ++
    (if q.filter.isEmpty then "" else " WHERE " ++ q.pastedFilter style) ++
    (if q.order.isEmpty then ""
      else " ORDER BY " ++ ", ".intercalate (q.orderFields.map Statement.orderText)) ++
    (if q.limit = 0 then "" else " LIMIT " ++ toString q.limit.toNat) ++
    (if q.offset = 0 then "" else " OFFSET " ++ toString q.offset.toNat))

end Query

/-! ## Columns -/

/-- The columns of a statement, joined, are the columns as they are pasted. -/
theorem Query.intercalate_columns (q : Query) :
    ", ".intercalate
        (if q.select.isEmpty then ["*"] else (Text.pieces ',' q.select.toList).map String.ofList) =
      q.pastedColumns := by
  rw [pastedColumns]
  split
  · exact String.intercalate_singleton
  · have texts : ((Text.pieces ',' q.select.toList).map String.ofList).map String.toList =
        Text.pieces ',' q.select.toList := by simp
    refine String.toList_inj.mp ?_
    rw [String.toList_intercalate, texts, Text.intercalate_pieces]
    exact String.toList_ofList.symm

/-! ## Predicates -/

namespace Statement

/-- Marks with blanks around their equals signs are comparisons. -/
theorem replace_marks (first n : Nat) :
    replace '=' " = ".toList (List.replicate n ['=', '?']).flatten =
      comparisons .question (List.range' first n) := by
  induction n generalizing first with
  | zero => rfl
  | succ n ih =>
    have mark : replace '=' " = ".toList ['=', '?'] = " = ".toList ++ ['?'] := by decide
    rw [List.replicate_succ, List.flatten_cons, Text.replace_append, mark, ih (first + 1),
      List.range'_succ, comparisons, comparisons, List.flatMap_cons, toList_question]

/-- A predicate over a field without an equals sign is written as its text is pasted, whatever number its
first placeholder has. -/
theorem toList_predicateText_question {p : List Char} (h : '=' ∉ Query.withoutMarks p) (first : Nat) :
    (predicateText .question first (predicateOf p)).toList = replace '=' " = ".toList p := by
  have field : (predicateOf p).field.toList = Query.withoutMarks p := String.toList_ofList
  have pasted := congrArg (replace '=' " = ".toList) (withoutMarks_append_marks_predicateOf p)
  rw [Text.replace_append, Text.replace_eq_self h, replace_marks first] at pasted
  rw [toList_predicateText, field, pasted]

/-- Predicates over fields without equals signs are written as their texts are pasted. -/
theorem map_toList_predicateTexts {ps : List (List Char)} (h : ∀ p ∈ ps, '=' ∉ Query.withoutMarks p)
    (first : Nat) :
    (predicateTexts .question first (ps.map predicateOf)).map String.toList =
      ps.map (replace '=' " = ".toList) := by
  induction ps generalizing first with
  | nil => rfl
  | cons p ps ih =>
    rw [List.forall_mem_cons] at h
    rw [List.map_cons, predicateTexts, List.map_cons, toList_predicateText_question h.1, ih h.2, List.map_cons]

end Statement

/-- Numbering the placeholders and setting blanks around the equals signs can be done in either order. -/
theorem replace_numberedFrom (n : Nat) (cs : List Char) :
    replace '=' " = ".toList (numberedFrom n cs) = numberedFrom n (replace '=' " = ".toList cs) := by
  induction cs generalizing n with
  | nil => rfl
  | cons c cs ih =>
    by_cases mark : c = '?'
    · have number : '=' ∉ (Statement.placeholderText .dollar n).toList := by
        rw [Statement.toList_dollar, List.mem_cons, not_or]
        exact ⟨by decide, fun digit => absurd (Statement.isDigit_of_mem_number digit) (by decide)⟩
      rw [mark, numberedFrom, if_pos rfl, Text.replace_append, Text.replace_eq_self number, ih,
        Text.replace_cons_of_ne (by decide), numberedFrom, if_pos rfl]
    · rw [numberedFrom, if_neg mark]
      by_cases equals : c = '='
      · have unmarked : '?' ∉ " = ".toList := by decide
        rw [equals, Text.replace_cons_self, Text.replace_cons_self, ih, numberedFrom_append,
          numberedFrom_eq_self unmarked, List.count_eq_zero_of_not_mem unmarked, Nat.add_zero]
      · rw [Text.replace_cons_of_ne equals, Text.replace_cons_of_ne equals, ih, numberedFrom, if_neg mark]

namespace Query

variable {q : Query}

/-- No query with a filter is without predicates, and no other one has any. -/
theorem isEmpty_predicates (q : Query) : q.predicates.isEmpty = q.filter.isEmpty := by
  rw [predicates]
  by_cases empty : q.filter.isEmpty = true
  · rw [if_pos empty, empty]
    rfl
  · rw [if_neg empty, Bool.eq_false_iff.mpr empty, List.isEmpty_eq_false_iff]
    exact Text.piecesAfter_ne_nil _ _ _

/-- The predicates of a query that passes the gate are written as its filter is pasted. -/
theorem whereText_question (fields : ∀ f ∈ q.filterFields, isIdentifier f = true)
    (filter : q.filter.isEmpty = false) :
    " AND ".intercalate (Statement.predicateTexts .question 1 (q.predicates.map Statement.predicateOf)) =
      q.pastedFilter .question := by
  have equals : ∀ p ∈ q.predicates, '=' ∉ withoutMarks p := by
    intro p hp
    have field := fields _ (List.mem_map_of_mem hp)
    simpa using not_mem_of_isIdentifier field (c := '=') (by decide)
  have separator : '=' ∉ " AND ".toList := by decide
  have joined : " AND ".toList.intercalate q.predicates = q.filter.toList := by
    rw [predicates, if_neg (Bool.eq_false_iff.mp filter), Text.intercalate_piecesAt (by decide)]
  refine String.toList_inj.mp ?_
  rw [String.toList_intercalate, Statement.map_toList_predicateTexts equals,
    ← Text.replace_intercalate separator, joined, toList_pastedFilter, styledFilter]

/-- The WHERE text of a query that passes the gate is its filter as it is pasted, in both styles. -/
theorem whereText_eq_pastedFilter (fields : ∀ f ∈ q.filterFields, isIdentifier f = true)
    (filter : q.filter.isEmpty = false) (style : Placeholder) :
    " AND ".intercalate (Statement.predicateTexts style 1 (q.predicates.map Statement.predicateOf)) =
      q.pastedFilter style := by
  have question := whereText_question fields filter
  cases style with
  | question => exact question
  | dollar =>
    have unmarked : ∀ p ∈ q.predicates.map Statement.predicateOf, '?' ∉ p.field.toList := by
      intro p hp
      obtain ⟨text, ht, rfl⟩ := List.mem_map.mp hp
      exact not_mem_of_isIdentifier (fields _ (List.mem_map_of_mem ht)) (by decide)
    refine String.toList_inj.mp ?_
    rw [← Statement.numberedFrom_predicateTexts unmarked, question, toList_pastedFilter,
      toList_pastedFilter, styledFilter, styledFilter, replace_numberedFrom]

/-- The WHERE clause, which only a query with a filter has. -/
theorem whereClause_eq_pasted (fields : ∀ f ∈ q.filterFields, isIdentifier f = true) (style : Placeholder) :
    (if (q.predicates.map Statement.predicateOf).isEmpty then ""
      else " WHERE " ++ " AND ".intercalate
        (Statement.predicateTexts style 1 (q.predicates.map Statement.predicateOf))) =
      if q.filter.isEmpty then "" else " WHERE " ++ q.pastedFilter style := by
  rw [List.isEmpty_map, isEmpty_predicates]
  by_cases empty : q.filter.isEmpty = true
  · rw [if_pos empty, if_pos empty]
  · rw [if_neg empty, if_neg empty, whereText_eq_pastedFilter fields (Bool.eq_false_iff.mpr empty)]

/-- **SQL text is pasted from the clauses.** Writing the statement that a query is read into, and pasting the
texts of its clauses, give the same text or refuse the query for the same cause. -/
theorem sql_eq_pasted (q : Query) (style : Placeholder) (table : String) :
    q.sql style table = q.pasted style table := by
  cases passed : Statement.check q with
  | error why =>
    rw [sql_eq_error_iff.mpr passed, pasted, passed]
    rfl
  | ok =>
    obtain ⟨-, fields, -⟩ := Statement.check_eq_ok_iff.mp passed
    refine Eq.trans (sql_eq_ok_iff.mpr ⟨_, Statement.ofQuery_eq_ok_iff.mpr ⟨passed, rfl⟩, rfl⟩) ?_
    rw [Statement.text, intercalate_columns, Statement.tail, whereClause_eq_pasted fields, pasted, passed]
    cases q.order.isEmpty <;> simp only [String.append_assoc] <;> rfl

end Query

end NameQuery
