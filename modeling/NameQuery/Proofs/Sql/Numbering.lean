import NameQuery.Proofs.Sql.Vocabulary

/-!
# Placeholders with and without numbers

The two styles of placeholders differ in the numbers alone (`Query.sql_styles`). A query is refused in both for
the same cause, or it has SQL text in both: the two are one text up to the table, and behind it the question
marks of the one, counted from the left, are the dollar signs with numbers of the other (`withNumbers`). So the
numbers can be taken away again (`withoutNumbers`).

Taking them away needs more than counting: a dollar sign takes all the digits behind it, so none of them may
belong to anything else. A placeholder is a word of its own behind the table, between gaps, because fields are
identifiers there (`Query.isTailText_tail`).
-/

set_option autoImplicit false

namespace NameQuery

open Text (wordsOf isGap)

/-! ## Numbering a text -/

/-- A text whose question marks, from left to right, are written as dollar signs with the numbers from `n` on. -/
def numberedFrom (n : Nat) : List Char → List Char
  | [] => []
  | c :: cs =>
    if c = '?' then (Statement.placeholderText .dollar n).toList ++ numberedFrom (n + 1) cs
    else c :: numberedFrom n cs

/-- A text with each dollar sign and the digits behind it written as a question mark. At its start, the digits
of a number are passed over if one is open. -/
def unnumberedAfter (number : Bool) : List Char → List Char
  | [] => []
  | c :: cs =>
    if number && c.isDigit then unnumberedAfter true cs
    else if c = '$' then '?' :: unnumberedAfter true cs
    else c :: unnumberedAfter false cs

/-- A text with its question marks numbered from one. -/
def withNumbers (text : String) : String := String.ofList (numberedFrom 1 text.toList)

/-- A text without the numbers of its placeholders. -/
def withoutNumbers (text : String) : String := String.ofList (unnumberedAfter false text.toList)

/-- A text goes on with the number that follows the question marks before it. -/
theorem numberedFrom_append (n : Nat) (before behind : List Char) :
    numberedFrom n (before ++ behind) =
      numberedFrom n before ++ numberedFrom (n + before.count '?') behind := by
  induction before generalizing n with
  | nil => rfl
  | cons c cs ih =>
    by_cases mark : c = '?'
    · have count : n + (c :: cs).count '?' = n + 1 + cs.count '?' := by
        rw [mark, List.count_cons_self]
        omega
      rw [List.cons_append, numberedFrom, numberedFrom, if_pos mark, if_pos mark, ih, count,
        List.append_assoc]
    · rw [List.cons_append, numberedFrom, numberedFrom, if_neg mark, if_neg mark, ih,
        List.count_cons_of_ne mark, List.cons_append]

theorem numberedFrom_eq_self {cs : List Char} (h : '?' ∉ cs) (n : Nat) : numberedFrom n cs = cs := by
  induction cs with
  | nil => rfl
  | cons c cs ih =>
    rw [List.mem_cons, not_or] at h
    rw [numberedFrom, if_neg (Ne.symm h.1), ih h.2]

/-- The digits of an open number are passed over. -/
theorem unnumberedAfter_append {digits : List Char} (h : ∀ d ∈ digits, d.isDigit = true)
    (rest : List Char) : unnumberedAfter true (digits ++ rest) = unnumberedAfter true rest := by
  induction digits with
  | nil => rfl
  | cons d ds ih =>
    rw [List.forall_mem_cons] at h
    rw [List.cons_append, unnumberedAfter, h.1, Bool.and_self, if_pos rfl, ih h.2]

/-- No digit stands directly behind a question mark. -/
def MarksEnd (cs : List Char) : Prop := ∀ before after, cs = before ++ '?' :: after → EndsNumber after

theorem MarksEnd.tail {c : Char} {cs : List Char} (h : MarksEnd (c :: cs)) : MarksEnd cs := by
  rintro before after rfl
  exact h (c :: before) after rfl

/-- A text comes back from its numbered form if it has no dollar sign and its marks end. -/
theorem unnumberedAfter_numberedFrom {cs : List Char} (unsigned : '$' ∉ cs) (ends : MarksEnd cs)
    {number : Bool} (closed : number = true → EndsNumber cs) (n : Nat) :
    unnumberedAfter number (numberedFrom n cs) = cs := by
  induction cs generalizing n number with
  | nil => rfl
  | cons c cs ih =>
    rw [List.mem_cons, not_or] at unsigned
    rw [numberedFrom]
    by_cases mark : c = '?'
    · have digits : ∀ d ∈ (toString n).toList, d.isDigit = true := fun d => Statement.isDigit_of_mem_number
      have sign : (number && '$'.isDigit) = false := Bool.and_false number
      have behind : EndsNumber cs := ends [] cs (by rw [mark]; rfl)
      rw [if_pos mark, Statement.toList_dollar, List.cons_append, unnumberedAfter, sign,
        if_neg Bool.false_ne_true, if_pos rfl, unnumberedAfter_append digits,
        ih unsigned.2 ends.tail fun _ => behind, mark]
    · have other : ¬ (number && c.isDigit) = true := by
        rw [Bool.and_eq_true]
        rintro ⟨inside, digit⟩
        rw [closed inside c rfl] at digit
        cases digit
      have none : false = true → EndsNumber cs := fun h => absurd h Bool.false_ne_true
      rw [if_neg mark, unnumberedAfter, if_neg other, if_neg (Ne.symm unsigned.1), ih unsigned.2 ends.tail none]

/-- Numbers can be taken away again from a text without dollar signs whose marks end. -/
theorem withoutNumbers_withNumbers {text : String} (unsigned : '$' ∉ text.toList) (ends : MarksEnd text.toList) :
    withoutNumbers (withNumbers text) = text := by
  have closed : false = true → EndsNumber text.toList := fun h => absurd h Bool.false_ne_true
  rw [withoutNumbers, withNumbers, String.toList_ofList, unnumberedAfter_numberedFrom unsigned ends closed,
    String.ofList_toList]

/-! ## Numbering a statement -/

namespace Statement

/-- Comparisons have one question mark each, and numbering them numbers their placeholders. -/
theorem numberedFrom_comparisons (first marks : Nat) :
    (comparisons .question (List.range' first marks)).count '?' = marks ∧
      numberedFrom first (comparisons .question (List.range' first marks)) =
        comparisons .dollar (List.range' first marks) := by
  induction marks generalizing first with
  | zero => exact ⟨rfl, rfl⟩
  | succ marks ih =>
    obtain ⟨count, rest⟩ := ih (first + 1)
    have text : ∀ style, comparisons style (List.range' first (marks + 1)) =
        " = ".toList ++ ((placeholderText style first).toList ++
          comparisons style (List.range' (first + 1) marks)) := by
      intro style
      rw [List.range'_succ, comparisons, List.flatMap_cons, List.append_assoc]
      rfl
    have equals : '?' ∉ " = ".toList := by decide
    constructor
    · rw [text, toList_question, List.count_append, List.count_eq_zero_of_not_mem equals, Nat.zero_add,
        List.singleton_append, List.count_cons_self, count]
    · rw [text, text, toList_question, numberedFrom_append, numberedFrom_eq_self equals,
        List.count_eq_zero_of_not_mem equals, Nat.add_zero, List.singleton_append, numberedFrom, if_pos rfl, rest]

/-- A predicate over a field without question marks is numbered at its placeholders only. -/
theorem numberedFrom_predicateText {p : Predicate} (unmarked : '?' ∉ p.field.toList) (first : Nat) :
    (predicateText .question first p).toList.count '?' = p.marks ∧
      numberedFrom first (predicateText .question first p).toList =
        (predicateText .dollar first p).toList := by
  obtain ⟨count, comparisons⟩ := numberedFrom_comparisons first p.marks
  have none := List.count_eq_zero_of_not_mem unmarked
  rw [toList_predicateText, toList_predicateText]
  constructor
  · rw [List.count_append, none, count, Nat.zero_add]
  · rw [numberedFrom_append, numberedFrom_eq_self unmarked, none, Nat.add_zero, comparisons]

/-- The WHERE text is numbered from the first placeholder on. -/
theorem numberedFrom_predicateTexts {ps : List Predicate} (unmarked : ∀ p ∈ ps, '?' ∉ p.field.toList)
    (first : Nat) :
    numberedFrom first (" AND ".intercalate (predicateTexts .question first ps)).toList =
      (" AND ".intercalate (predicateTexts .dollar first ps)).toList := by
  induction ps generalizing first with
  | nil => rfl
  | cons p ps ih =>
    obtain ⟨count, numbers⟩ := numberedFrom_predicateText (unmarked p List.mem_cons_self) first
    have rest := ih (fun r hr => unmarked r (List.mem_cons_of_mem _ hr)) (first + p.marks)
    cases ps with
    | nil => simpa [predicateTexts] using numbers
    | cons r ps =>
      have separator : '?' ∉ " AND ".toList := by decide
      have parts : ∀ style, (" AND ".intercalate (predicateTexts style first (p :: r :: ps))).toList =
          (predicateText style first p).toList ++ (" AND ".toList ++
            (" AND ".intercalate (predicateTexts style (first + p.marks) (r :: ps))).toList) := by
        intro style
        rw [predicateTexts, predicateTexts, String.intercalate_cons_cons, String.toList_append,
          String.toList_append, List.append_assoc, ← predicateTexts]
      rw [parts, parts, numberedFrom_append, numbers, count, numberedFrom_append,
        numberedFrom_eq_self separator, List.count_eq_zero_of_not_mem separator, Nat.add_zero, rest]

/-- What follows the table is the WHERE text and what stands behind it. -/
theorem tail_eq (style : Placeholder) (s : Statement) :
    s.tail style = (if s.predicates.isEmpty then "" else " WHERE " ++ s.whereText style) ++ s.afterWhere := by
  rw [tail, afterWhere, whereText]
  cases s.order <;> simp only [String.append_assoc]

end Statement

/-! ## Placeholders are words of their own -/

section

variable {q : Query} {table : String} {s : Statement} {style : Placeholder}

/-- A word behind the table is a placeholder, or it holds no sign of one. -/
theorem Query.IsTailWord.placeholder_or_unsigned {w : String} (h : q.IsTailWord style w) :
    (∃ n, w = Statement.placeholderText style n) ∨ ∀ other : Placeholder, other.sign ∉ w.toList := by
  have number : ∀ (n : Nat) (other : Placeholder), other.sign ∉ (toString n).toList := by
    intro n other hmem
    have digit := Statement.isDigit_of_mem_number hmem
    cases other <;> cases digit
  cases h with
  | keyword mem =>
    have plain : ∀ v ∈ tailKeywords, '?' ∉ v.toList ∧ '$' ∉ v.toList := by simp [tailKeywords]
    exact .inr fun other => by cases other <;> simp [Placeholder.sign, plain _ mem]
  | @placeholder n => exact .inl ⟨n, rfl⟩
  | limit => exact .inr (number _)
  | offset => exact .inr (number _)
  | field identifier =>
    exact .inr fun other => not_mem_of_isIdentifier identifier (by cases other <;> decide)

/-- A placeholder holds the sign of its own style only. -/
theorem Statement.sign_not_mem_placeholderText {other : Placeholder} (different : other ≠ style) (n : Nat) :
    other.sign ∉ (placeholderText style n).toList := by
  cases style with
  | question =>
    rw [toList_question]
    cases other with
    | question => exact absurd rfl different
    | dollar => decide
  | dollar =>
    rw [toList_dollar, List.mem_cons]
    cases other with
    | question =>
      rintro (same | digit)
      · cases same
      · cases isDigit_of_mem_number digit
    | dollar => exact absurd rfl different

/-- The text behind the table holds no sign of the other style. -/
theorem Statement.sign_not_mem_tail (made : ofQuery q table = .ok s) {other : Placeholder}
    (different : other ≠ style) : other.sign ∉ (s.tail style).toList := by
  intro hmem
  obtain ⟨w, hw, sign⟩ := Text.exists_mem_wordsOf hmem (by cases other <;> decide)
  rcases ((Query.isTailText_tail made).words w hw).placeholder_or_unsigned with ⟨n, rfl⟩ | unsigned
  · exact sign_not_mem_placeholderText different n sign
  · exact unsigned other sign

/-- No digit stands directly behind a question mark, since the mark is a word of its own. -/
theorem Statement.marksEnd_tail (made : ofQuery q table = .ok s) : MarksEnd (s.tail .question).toList := by
  intro before after parts c hc
  obtain ⟨rest, rfl⟩ := List.head?_eq_some_iff.mp hc
  rw [Bool.eq_false_iff]
  intro digit
  have run : ['?', c] <:+: (s.tail .question).toList := ⟨before, rest, by rw [parts]; simp⟩
  have plain : ∀ d ∈ ['?', c], isGap d = false := by
    simp [isGap_of_isWordChar (isWordChar_of_isDigit digit), isGap_of_isWordChar (show isWordChar '?' from rfl)]
  obtain ⟨w, hw, inside⟩ := Text.exists_word_of_run run (by simp) plain
  rcases ((Query.isTailText_tail made).words w hw).placeholder_or_unsigned with ⟨n, rfl⟩ | unsigned
  · rw [toList_question] at inside
    exact absurd inside.length_le (by simp)
  · exact unsigned .question (inside.subset (by simp [Placeholder.sign]))

/-- What follows the table in the one style is what follows it in the other, with its numbers. -/
theorem Statement.tail_dollar (made : ofQuery q table = .ok s) :
    s.tail .dollar = withNumbers (s.tail .question) := by
  have behind : '?' ∉ s.afterWhere.toList := by
    have whole : '?' ∉ (s.tail .dollar).toList :=
      sign_not_mem_tail made (show Placeholder.question ≠ .dollar by decide)
    rw [tail_eq, String.toList_append, List.mem_append, not_or] at whole
    exact whole.2
  have unmarked : ∀ p ∈ s.predicates, '?' ∉ p.field.toList := by
    obtain ⟨passed, hs⟩ := ofQuery_eq_ok_iff.mp made
    obtain ⟨-, fields, -⟩ := check_eq_ok_iff.mp passed
    intro p hp
    rw [hs] at hp
    obtain ⟨text, ht, rfl⟩ := List.mem_map.mp hp
    exact not_mem_of_isIdentifier (fields _ (List.mem_map_of_mem ht)) (by decide)
  have word : '?' ∉ " WHERE ".toList := by decide
  have clause : numberedFrom 1 (if s.predicates.isEmpty then "" else " WHERE " ++ s.whereText .question).toList =
      (if s.predicates.isEmpty then "" else " WHERE " ++ s.whereText .dollar).toList := by
    split
    · rfl
    · rw [String.toList_append, String.toList_append, numberedFrom_append, numberedFrom_eq_self word,
        List.count_eq_zero_of_not_mem word, whereText, numberedFrom_predicateTexts unmarked, whereText]
  refine String.toList_inj.mp ?_
  rw [withNumbers, String.toList_ofList, tail_eq, tail_eq, String.toList_append, String.toList_append,
    numberedFrom_append, clause, numberedFrom_eq_self behind]

end

/-- **The two styles differ in the numbers alone.** A query is refused in both styles for the same cause, or it
has a statement whose two texts are the same up to the table. Behind it stands one text in question style, and in
dollar style this text with its question marks, from left to right, written as `$1`, `$2` and so on; and without
its numbers that is the text in question style again. -/
theorem Query.sql_styles (q : Query) (table : String) :
    (∃ why, q.sql .question table = .error why ∧ q.sql .dollar table = .error why) ∨
    ∃ s opening rest, Statement.ofQuery q table = .ok s ∧
      opening = "SELECT " ++ ", ".intercalate s.columns ++ " FROM " ++ table ∧ rest = s.tail .question ∧
      q.sql .question table = .ok (opening ++ rest) ∧
      q.sql .dollar table = .ok (opening ++ withNumbers rest) ∧ withoutNumbers (withNumbers rest) = rest := by
  cases made : Statement.ofQuery q table with
  | error why => exact .inl ⟨why, by rw [sql, made]; rfl, by rw [sql, made]; rfl⟩
  | ok s =>
    have named : s.table = table := by rw [(Statement.ofQuery_eq_ok_iff.mp made).2]
    have text : ∀ style, q.sql style table =
        .ok ("SELECT " ++ ", ".intercalate s.columns ++ " FROM " ++ table ++ s.tail style) := by
      intro style
      rw [← named]
      exact sql_eq_ok_iff.mpr ⟨s, named ▸ made, rfl⟩
    have unsigned : '$' ∉ (s.tail .question).toList :=
      Statement.sign_not_mem_tail made (show Placeholder.dollar ≠ .question by decide)
    refine .inr ⟨s, _, _, rfl, rfl, rfl, text .question, ?_,
      withoutNumbers_withNumbers unsigned (Statement.marksEnd_tail made)⟩
    rw [text, Statement.tail_dollar made]

/-- The digits of a field, of the limit and of the offset are no numbers of placeholders. -/
example : let rest := " WHERE a1 = ? AND b = ? = ? ORDER BY c3 LIMIT 5 OFFSET 7"
    withNumbers rest = " WHERE a1 = $1 AND b = $2 = $3 ORDER BY c3 LIMIT 5 OFFSET 7" ∧
      withoutNumbers (withNumbers rest) = rest := by
  decide +kernel

end NameQuery
