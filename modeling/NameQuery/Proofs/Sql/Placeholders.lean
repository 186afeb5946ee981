import NameQuery.Proofs.Query.Clauses
import NameQuery.Proofs.Sql.Gate
import NameQuery.Query.Compile

/-!
# Placeholders and values

A statement compares each field with as many placeholders as its predicate has marks `=?`, while a
query expects one value for each predicate. What is proved: the WHERE text of a statement shows its
placeholders numbered from one, left to right, one for each question mark of the filter
(`Statement.placeholdersIn_whereText`, `Query.count_filter`). The values of a query that passes the
count line up with the placeholders exactly if the filter has as many question marks as predicates
(`Query.placeholders_line_up_iff`).

They do not always: the gate looks at a predicate without any of its marks, so a predicate with two
marks passes as one with one mark does, and so does a predicate without marks. A field of a name can
end in `=?`, so even a compiled name can have more placeholders than values
(`Query.two_placeholders_for_one_value`).
-/

set_option autoImplicit false

namespace NameQuery

/-! ## Placeholders in a text -/

/-- The character that a placeholder begins with. -/
def Placeholder.sign : Placeholder → Char
  | .question => '?'
  | .dollar => '$'

/-- The placeholder that stands where its sign is followed by some characters: a dollar sign takes
the digits behind it. -/
def Placeholder.shown : Placeholder → List Char → String
  | .question, _ => "?"
  | .dollar, behind => String.ofList ('$' :: behind.takeWhile Char.isDigit)

/-- The placeholders that a text shows, from left to right. -/
def placeholdersIn (style : Placeholder) : List Char → List String
  | [] => []
  | c :: cs =>
    if c = style.sign then style.shown cs :: placeholdersIn style cs else placeholdersIn style cs

/-- No digit follows, so that a number ends here. -/
def EndsNumber (cs : List Char) : Prop := ∀ c ∈ cs.head?, c.isDigit = false

/-- Text without the sign of a placeholder shows none. -/
theorem placeholdersIn_append {style : Placeholder} {cs : List Char} (h : style.sign ∉ cs)
    (rest : List Char) : placeholdersIn style (cs ++ rest) = placeholdersIn style rest := by
  induction cs with
  | nil => rfl
  | cons c cs ih =>
    rw [List.mem_cons, not_or] at h
    rw [List.cons_append, placeholdersIn, if_neg (Ne.symm h.1), ih h.2]

namespace Statement

/-- A written number has digits only. -/
theorem isDigit_of_mem_number {n : Nat} {c : Char} (h : c ∈ (toString n).toList) : c.isDigit = true := by
  rw [Nat.toString_eq_repr, Nat.toList_repr] at h
  exact Nat.isDigit_of_mem_toDigits (by decide) (by decide) h

theorem toList_question (n : Nat) : (placeholderText .question n).toList = ['?'] := by
  simp [placeholderText]

theorem toList_dollar (n : Nat) : (placeholderText .dollar n).toList = '$' :: (toString n).toList := by
  simp [placeholderText]

/-- A placeholder in a text is shown as it is written, if its number ends where it ends. -/
theorem placeholdersIn_placeholderText (style : Placeholder) (n : Nat) {rest : List Char}
    (h : EndsNumber rest) :
    placeholdersIn style ((placeholderText style n).toList ++ rest) =
      placeholderText style n :: placeholdersIn style rest := by
  cases style with
  | question =>
    rw [toList_question, List.singleton_append, placeholdersIn,
      if_pos (show '?' = Placeholder.question.sign from rfl)]
    rfl
  | dollar =>
    have digits : ∀ c ∈ (toString n).toList, c.isDigit = true := fun c => isDigit_of_mem_number
    have number : ((toString n).toList ++ rest).takeWhile Char.isDigit = (toString n).toList := by
      rw [List.takeWhile_append_of_pos digits]
      cases rest with
      | nil => simp
      | cons c rest => rw [List.takeWhile_cons_of_neg (by simp [h c rfl]), List.append_nil]
    have unsigned : Placeholder.dollar.sign ∉ (toString n).toList :=
      fun hmem => absurd (digits _ hmem) (by decide)
    rw [toList_dollar, List.cons_append, placeholdersIn, if_pos (show '$' = Placeholder.dollar.sign from rfl),
      placeholdersIn_append unsigned, Placeholder.shown, number, ← toList_dollar, String.ofList_toList]

/-! ## Placeholders of predicates -/

/-- The comparisons with placeholders of some numbers. -/
def comparisons (style : Placeholder) (numbers : List Nat) : List Char :=
  numbers.flatMap fun n => " = ".toList ++ (placeholderText style n).toList

/-- Comparisons show the placeholders of their numbers. -/
theorem placeholdersIn_comparisons (style : Placeholder) (numbers : List Nat) {rest : List Char}
    (h : EndsNumber rest) :
    placeholdersIn style (comparisons style numbers ++ rest) =
      numbers.map (placeholderText style) ++ placeholdersIn style rest := by
  induction numbers with
  | nil => rfl
  | cons n numbers ih =>
    have ends : EndsNumber (comparisons style numbers ++ rest) := by
      cases numbers with
      | nil => exact h
      | cons m numbers => rintro c ⟨⟩; rfl
    have equals : style.sign ∉ " = ".toList := by cases style <;> decide
    have split : comparisons style (n :: numbers) ++ rest =
        " = ".toList ++ ((placeholderText style n).toList ++ (comparisons style numbers ++ rest)) := by
      simp [comparisons]
    rw [split, placeholdersIn_append equals, placeholdersIn_placeholderText style n ends, ih]
    rfl

/-- A predicate is its field and the comparisons with its placeholders. -/
theorem toList_predicateText (style : Placeholder) (first : Nat) (p : Predicate) :
    (predicateText style first p).toList =
      p.field.toList ++ comparisons style (List.range' first p.marks) := by
  have join : ∀ numbers : List Nat,
      (String.join (numbers.map fun i => " = " ++ placeholderText style (first + i))).toList =
        comparisons style (numbers.map (first + ·)) := by
    intro numbers
    induction numbers with
    | nil => rfl
    | cons n numbers ih =>
      rw [List.map_cons, String.join_cons, String.toList_append, ih, String.toList_append]
      rfl
  rw [predicateText, String.toList_append, join, List.range'_eq_map_range]

def totalMarks (ps : List Predicate) : Nat := (ps.map Predicate.marks).sum

/-- A predicate over an identifier shows the placeholders of its marks, numbered from the first. -/
theorem placeholdersIn_predicateText {style : Placeholder} {p : Predicate}
    (field : isIdentifier p.field = true) (first : Nat) {rest : List Char} (h : EndsNumber rest) :
    placeholdersIn style ((predicateText style first p).toList ++ rest) =
      (List.range' first p.marks).map (placeholderText style) ++ placeholdersIn style rest := by
  have unsigned : style.sign ∉ p.field.toList :=
    not_mem_of_isIdentifier field (by cases style <;> decide)
  rw [toList_predicateText, List.append_assoc, placeholdersIn_append unsigned,
    placeholdersIn_comparisons style _ h]

/-- Predicates over identifiers show their placeholders in the order of their numbers. -/
theorem placeholdersIn_predicateTexts (style : Placeholder) {ps : List Predicate}
    (fields : ∀ p ∈ ps, isIdentifier p.field = true) (first : Nat) :
    placeholdersIn style (" AND ".intercalate (predicateTexts style first ps)).toList =
      (List.range' first (totalMarks ps)).map (placeholderText style) := by
  induction ps generalizing first with
  | nil => rfl
  | cons p ps ih =>
    have field := fields p List.mem_cons_self
    have rest := ih (fun r hr => fields r (List.mem_cons_of_mem _ hr)) (first + p.marks)
    have total : List.range' first (totalMarks (p :: ps)) =
        List.range' first p.marks ++ List.range' (first + p.marks) (totalMarks ps) := by
      rw [List.range'_append_1]
      rfl
    cases ps with
    | nil =>
      have ends : EndsNumber [] := nofun
      have last : placeholdersIn style ((predicateText style first p).toList ++ []) = _ :=
        placeholdersIn_predicateText field first ends
      rw [total]
      simpa [predicateTexts, totalMarks, placeholdersIn] using last
    | cons r ps =>
      have separator : style.sign ∉ " AND ".toList := by cases style <;> decide
      have ends : ∀ text, EndsNumber (" AND ".toList ++ text) := by
        rintro text c ⟨⟩
        rfl
      rw [predicateTexts, predicateTexts, String.intercalate_cons_cons, String.toList_append,
        String.toList_append, List.append_assoc, placeholdersIn_predicateText field first (ends _),
        placeholdersIn_append separator, ← predicateTexts, rest, total, List.map_append]

/-! ## Marks of predicates -/

theorem count_marks (n : Nat) : (List.replicate n ['=', '?']).flatten.count '?' = n := by
  induction n with
  | zero => rfl
  | succ n ih => rw [List.replicate_succ, List.flatten_cons, List.count_append, ih, Nat.add_comm]; rfl

/-- A predicate is its field and its marks. -/
theorem withoutMarks_append_marks_predicateOf (p : List Char) :
    p = Query.withoutMarks p ++ (List.replicate (predicateOf p).marks ['=', '?']).flatten := by
  obtain ⟨n, hn⟩ := Query.exists_marks p
  have length : p.length = (Query.withoutMarks p).length + 2 * n := by
    have := congrArg List.length hn
    simpa [Nat.mul_comm] using this
  have marks : (predicateOf p).marks = n := by
    show (p.length - (Query.withoutMarks p).length) / 2 = n
    omega
  rw [marks]
  exact hn

/-- A predicate over a field without question marks has as many placeholders as question marks. -/
theorem marks_predicateOf {p : List Char} (h : '?' ∉ Query.withoutMarks p) :
    (predicateOf p).marks = p.count '?' := by
  have count := congrArg (List.count '?') (withoutMarks_append_marks_predicateOf p)
  rw [List.count_append, List.count_eq_zero_of_not_mem h, count_marks, Nat.zero_add] at count
  exact count.symm

end Statement

/-- The question marks of a filter are those of its predicates. -/
theorem Query.count_filter (q : Query) :
    q.filter.toList.count '?' = (q.predicates.map (List.count '?')).sum := by
  rw [predicates]
  split
  case isTrue empty =>
    rw [String.isEmpty_iff.mp empty]
    rfl
  case isFalse =>
    have separator : '?' ∉ " AND ".toList := by decide
    rw [← Text.count_intercalate separator, Text.intercalate_piecesAt (by decide)]

/-- A query that passes the gate compares its fields with as many placeholders as its filter has
question marks. -/
theorem Query.totalMarks_eq {q : Query} (h : ∀ f ∈ q.filterFields, isIdentifier f = true) :
    Statement.totalMarks (q.predicates.map Statement.predicateOf) = q.filter.toList.count '?' := by
  rw [count_filter, Statement.totalMarks, List.map_map]
  congr 1
  refine List.map_congr_left fun p hp => Statement.marks_predicateOf ?_
  have field := h _ (List.mem_map_of_mem hp)
  simpa using not_mem_of_isIdentifier field (c := '?') (by decide)

namespace Statement

/-! ## The WHERE text -/

def whereText (style : Placeholder) (s : Statement) : String :=
  " AND ".intercalate (predicateTexts style 1 s.predicates)

/-- What follows the predicates: order, limit and offset. -/
def afterWhere (s : Statement) : String :=
  (match s.order with
    | none => ""
    | some entries => " ORDER BY " ++ ", ".intercalate (entries.map orderText)) ++
  (if s.limit = 0 then "" else " LIMIT " ++ toString s.limit.toNat) ++
  (if s.offset = 0 then "" else " OFFSET " ++ toString s.offset.toNat)

/-- The text of a statement, with its WHERE text. -/
theorem text_eq (style : Placeholder) (s : Statement) :
    s.text style = "SELECT " ++ ", ".intercalate s.columns ++ " FROM " ++ s.table ++
      (if s.predicates.isEmpty then "" else " WHERE " ++ s.whereText style) ++ s.afterWhere := by
  rw [text, tail, afterWhere, whereText]
  cases s.order <;> simp only [String.append_assoc]

/-- The WHERE text of a query shows one placeholder for each question mark of the filter, numbered
from one, left to right. -/
theorem placeholdersIn_whereText {q : Query} {table : String} {s : Statement}
    (h : ofQuery q table = .ok s) (style : Placeholder) :
    placeholdersIn style (s.whereText style).toList =
      (List.range' 1 (q.filter.toList.count '?')).map (placeholderText style) := by
  obtain ⟨passed, rfl⟩ := ofQuery_eq_ok_iff.mp h
  obtain ⟨-, fields, -⟩ := check_eq_ok_iff.mp passed
  have identifiers : ∀ p ∈ q.predicates.map predicateOf, isIdentifier p.field = true := by
    intro p hp
    obtain ⟨text, ht, rfl⟩ := List.mem_map.mp hp
    exact fields _ (List.mem_map_of_mem ht)
  rw [whereText, placeholdersIn_predicateTexts style identifiers, Query.totalMarks_eq fields]

end Statement

/-! ## Values -/

/-- A query that passes the count of its values has one for each predicate. -/
theorem Query.values_length_of_checkBindings {q : Query} (h : q.checkBindings = .ok ()) :
    q.values.length = q.predicates.length := by
  rw [checkBindings] at h
  split at h
  case isTrue count => rw [← count, placeholderCount, filterFields, List.length_map]
  case isFalse => cases h

/-- **When placeholders and values line up.** Where a query passes the count of its values and the
gate, its statement goes out, and the WHERE text of what is sent shows the placeholders of exactly
the values if and only if the filter has as many question marks as predicates. -/
theorem Query.placeholders_line_up_iff {q : Query} {style : Placeholder} {table sql : String}
    (bound : q.checkBindings = .ok ()) (rendered : q.sql style table = .ok sql) :
    ∃ s, Statement.ofQuery q table = .ok s ∧
      sql = "SELECT " ++ ", ".intercalate s.columns ++ " FROM " ++ table ++
        (if q.predicates.isEmpty then "" else " WHERE " ++ s.whereText style) ++ s.afterWhere ∧
      (placeholdersIn style (s.whereText style).toList =
          (List.range' 1 q.values.length).map (Statement.placeholderText style) ↔
        q.filter.toList.count '?' = q.predicates.length) := by
  obtain ⟨s, hs, rfl⟩ : ∃ s, Statement.ofQuery q table = .ok s ∧ s.text style = sql := by
    rw [Query.sql] at rendered
    cases hs : Statement.ofQuery q table with
    | error e => rw [hs] at rendered; cases rendered
    | ok s => rw [hs] at rendered; exact ⟨s, rfl, Except.ok.inj rendered⟩
  obtain ⟨-, made⟩ := Statement.ofQuery_eq_ok_iff.mp hs
  refine ⟨s, hs, ?_, ?_⟩
  · rw [Statement.text_eq, made, List.isEmpty_map]
  · rw [Statement.placeholdersIn_whereText hs, values_length_of_checkBindings bound]
    constructor
    · intro same
      simpa using congrArg List.length same
    · intro same
      rw [same]

theorem Query.placeholders_line_up_of_two_fields :
    ∃ q, Query.ofName "findByNameAndStatus" [.string "mike", .string "active"] = .ok q ∧
      q.checkBindings = .ok () ∧
      q.sql .dollar "users" = .ok "SELECT * FROM users WHERE name = $1 AND status = $2" ∧
      ∃ s, Statement.ofQuery q "users" = .ok s ∧
        placeholdersIn .dollar (s.whereText .dollar).toList = ["$1", "$2"] := by
  refine ⟨⟨"", "name=? AND status=?", "", 0, 0, [.string "mike", .string "active"]⟩, rfl, ?_⟩
  have text : Statement.text .dollar ⟨["*"], "users", [⟨"name", 1⟩, ⟨"status", 1⟩], none, 0, 0⟩ =
    "SELECT * FROM users WHERE name = $1 AND status = $2" := by decide +kernel
  have rendered : Query.sql ⟨"", "name=? AND status=?", "", 0, 0, [.string "mike", .string "active"]⟩
    .dollar "users" = .ok "SELECT * FROM users WHERE name = $1 AND status = $2" := congrArg Except.ok text
  obtain ⟨s, hs, -, numbered⟩ := placeholders_line_up_iff rfl rendered
  exact ⟨rfl, rendered, s, hs, numbered.mpr (by decide)⟩

/-- A field that ends in a mark is compared with two placeholders and passes as one with one value. -/
theorem Query.two_placeholders_for_one_value :
    ∃ q s, Query.ofName "findById=?" [.int 2] = .ok q ∧ q.checkBindings = .ok () ∧
      Statement.ofQuery q "users" = .ok s ∧
      q.sql .question "users" = .ok "SELECT * FROM users WHERE id = ? = ?" ∧
      s.whereText .question = "id = ? = ?" ∧ q.values.length = 1 ∧
      placeholdersIn .question (s.whereText .question).toList ≠
        (List.range' 1 q.values.length).map (Statement.placeholderText .question) := by
  have text : Statement.text .question ⟨["*"], "users", [⟨"id", 2⟩], none, 0, 0⟩ =
    "SELECT * FROM users WHERE id = ? = ?" := by decide +kernel
  refine ⟨⟨"", "id=?=?", "", 0, 0, [.int 2]⟩, ⟨["*"], "users", [⟨"id", 2⟩], none, 0, 0⟩, rfl, rfl, rfl,
    congrArg Except.ok text, ?_, rfl, ?_⟩ <;> decide +kernel

end NameQuery
