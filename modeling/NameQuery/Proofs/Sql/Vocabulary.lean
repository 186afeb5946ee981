import NameQuery.Proofs.Sql.Placeholders
import NameQuery.Proofs.Text.Words

/-!
# The words of a statement

The text of a query that passes the gate, whatever texts the query was made of, holds the name of the
table and otherwise a fixed vocabulary: between SELECT and FROM the star and the columns of the
query, behind the table the keywords, placeholders, limit and offset, and the fields that the query
filters or orders by (`Query.sql_words`). Fields are identifiers there, so no character that could
end a name or open anything else is in the text besides the table's.

The columns go into the text as pieces of the select text, and predicates and order entries as
what is left of them; what the gate has seen of each piece decides the words that it can have.
-/

set_option autoImplicit false

namespace NameQuery

open Text (wordsOf isGap BeginsWithGap EndsWithGap)

/-! ## Characters -/

/-- Quotes, parentheses, semicolons, dashes, slashes, control characters and all that is not ASCII. -/
def isMeta (c : Char) : Bool :=
  c ∈ ['\'', '"', '\x60', '(', ')', ';', '-', '/', '\\'] || c.toNat < 32 || 127 ≤ c.toNat

/-- The characters of words in SQL text. -/
def isWordChar (c : Char) : Bool := c.isAlphanum || c ∈ ['_', '*', '=', '?', '$']

/-- Characters of words and gaps have no meaning of their own. -/
theorem isMeta_eq_false {c : Char} (h : isWordChar c = true ∨ isGap c = true) : isMeta c = false := by
  have code : ∀ d : Char, c = d ↔ c.toNat = d.toNat := fun d => Char.toNat_inj.symm
  have upper : c.isUpper = true ↔ 65 ≤ c.toNat ∧ c.toNat ≤ 90 := by
    simp [Char.isUpper, UInt32.le_iff_toNat_le]
  have lower : c.isLower = true ↔ 97 ≤ c.toNat ∧ c.toNat ≤ 122 := by
    simp [Char.isLower, UInt32.le_iff_toNat_le]
  have digit : c.isDigit = true ↔ 48 ≤ c.toNat ∧ c.toNat ≤ 57 := by
    simp [Char.isDigit, UInt32.le_iff_toNat_le]
  simp only [isWordChar, isGap, Char.isAlphanum, Char.isAlpha, Bool.or_eq_true, upper, lower, digit,
    decide_eq_true_eq, List.mem_cons, List.not_mem_nil, or_false, code, Char.reduceToNat] at h
  simp only [isMeta, Bool.or_eq_false_iff, decide_eq_false_iff_not, List.mem_cons, List.not_mem_nil,
    or_false, code, Char.reduceToNat]
  omega

theorem isGap_of_isWordChar {c : Char} (h : isWordChar c = true) : isGap c = false := by
  rw [Bool.eq_false_iff]
  intro gap
  simp only [isGap, Bool.or_eq_true, decide_eq_true_eq] at gap
  rcases gap with rfl | rfl <;> cases h

theorem isWordChar_of_isDigit {c : Char} (h : c.isDigit = true) : isWordChar c = true := by
  simp [isWordChar, Char.isAlphanum, h]

/-! ## Vocabulary -/

namespace Query

/-- The words that may stand between SELECT and FROM. -/
inductive IsSelectWord (q : Query) : String → Prop
  | star : IsSelectWord q "*"
  | column {w : String} (identifier : isIdentifier w = true) (mem : w ∈ q.columns) : IsSelectWord q w

/-- The keywords behind the table, and the sign of a comparison. -/
def tailKeywords : List String :=
  ["WHERE", "AND", "ORDER", "BY", "ASC", "DESC", "LIMIT", "OFFSET", "="]

/-- The words that may stand behind the table. -/
inductive IsTailWord (q : Query) (style : Placeholder) : String → Prop
  | keyword {w : String} (mem : w ∈ tailKeywords) : IsTailWord q style w
  | placeholder {n : Nat} (first : 1 ≤ n) (last : n ≤ q.filter.toList.count '?') :
      IsTailWord q style (Statement.placeholderText style n)
  | limit : IsTailWord q style (toString q.limit.toNat)
  | offset : IsTailWord q style (toString q.offset.toNat)
  | field {w : String} (identifier : isIdentifier w = true)
      (mem : w ∈ q.filterFields ∨ w ∈ q.orderFields.map (·.1)) : IsTailWord q style w

end Query

/-- Nothing but characters of words, and at least one. -/
def IsBareWord (w : String) : Prop := w.toList ≠ [] ∧ ∀ c ∈ w.toList, isWordChar c = true

/-- A bare word is one word. -/
theorem wordsOf_of_isBareWord {w : String} (h : IsBareWord w) : wordsOf w = [w] :=
  Text.wordsOf_eq_singleton (fun c hc => isGap_of_isWordChar (h.2 c hc)) h.1

theorem isBareWord_of_isIdentifier {w : String} (h : isIdentifier w = true) : IsBareWord w := by
  obtain ⟨ne, chars⟩ := isIdentifier_iff.mp h
  refine ⟨fun he => ne (String.toList_inj.mp he), fun c hc => ?_⟩
  have class_ := chars c hc
  simp only [Bool.or_eq_true, decide_eq_true_eq] at class_
  rcases class_ with (lower | digit) | rfl
  · simp [isWordChar, Char.isAlphanum, Char.isAlpha, lower]
  · exact isWordChar_of_isDigit digit
  · rfl

theorem isBareWord_number (n : Nat) : IsBareWord (toString n) := by
  have digits : (toString n).toList = Nat.toDigits 10 n := Nat.toList_repr
  refine ⟨?_, fun c hc => isWordChar_of_isDigit (Statement.isDigit_of_mem_number hc)⟩
  rw [digits]
  exact Nat.toDigits_ne_nil

theorem isBareWord_placeholderText (style : Placeholder) (n : Nat) :
    IsBareWord (Statement.placeholderText style n) := by
  cases style with
  | question => exact (by simp [IsBareWord, isWordChar] : IsBareWord "?")
  | dollar =>
    rw [IsBareWord, Statement.toList_dollar]
    exact ⟨List.cons_ne_nil _ _, List.forall_mem_cons.mpr ⟨rfl, (isBareWord_number n).2⟩⟩

namespace Query

variable {q : Query} {style : Placeholder}

theorem IsSelectWord.isBareWord {w : String} (h : q.IsSelectWord w) : IsBareWord w := by
  cases h with
  | star => simp [IsBareWord, isWordChar]
  | column identifier => exact isBareWord_of_isIdentifier identifier

theorem IsTailWord.isBareWord {w : String} (h : q.IsTailWord style w) : IsBareWord w := by
  cases h with
  | keyword mem =>
    have plain : ∀ v ∈ tailKeywords, IsBareWord v := by
      simp [tailKeywords, IsBareWord, isWordChar]
    exact plain _ mem
  | placeholder => exact isBareWord_placeholderText style _
  | limit => exact isBareWord_number _
  | offset => exact isBareWord_number _
  | field identifier => exact isBareWord_of_isIdentifier identifier

end Query

/-- A text of plain words has no meta character. -/
theorem isMeta_of_wordsOf {text : String} (h : ∀ w ∈ wordsOf text, IsBareWord w) :
    ∀ c ∈ text.toList, isMeta c = false := by
  intro c hc
  by_cases gap : isGap c = true
  · exact isMeta_eq_false (.inr gap)
  · obtain ⟨w, hw, hmem⟩ := Text.exists_mem_wordsOf hc (Bool.eq_false_iff.mpr gap)
    exact isMeta_eq_false (.inl ((h w hw).2 c hmem))

/-! ## The words of the clauses -/

namespace Statement

variable {q : Query} {style : Placeholder}

/-- The words between SELECT and FROM. -/
theorem isSelectWord_of_mem (passed : ∀ f ∈ q.columns, isIdentifier f = true) {w : String}
    (h : w ∈ wordsOf (", ".intercalate
      (if q.select.isEmpty then ["*"] else (Text.pieces ',' q.select.toList).map String.ofList))) :
    q.IsSelectWord w := by
  have star : wordsOf "*" = ["*"] := wordsOf_of_isBareWord (by simp [IsBareWord, isWordChar])
  have separator : wordsOf ", " = [] := by decide +kernel
  rcases Text.mem_wordsOf_intercalate (by decide) (by decide) h with h | ⟨t, ht, h⟩
  · rw [separator] at h
    cases h
  · split at ht
    case isTrue =>
      rw [List.mem_singleton.mp ht, star, List.mem_singleton] at h
      exact h ▸ .star
    case isFalse =>
      obtain ⟨p, hp, rfl⟩ := List.mem_map.mp ht
      by_cases empty : p = []
      · rw [empty] at h
        cases h
      by_cases all : p = ['*']
      · rw [all] at h
        exact List.mem_singleton.mp (star ▸ h) ▸ .star
      have column : String.ofList p ∈ q.columns :=
        List.mem_map_of_mem (List.mem_filter.mpr ⟨hp, by simp [empty, all]⟩)
      have identifier := passed _ column
      rw [wordsOf_of_isBareWord (isBareWord_of_isIdentifier identifier), List.mem_singleton] at h
      exact h ▸ .column identifier column

/-- The words of one predicate: its field, and an equals sign before each placeholder. -/
theorem mem_wordsOf_predicateText {first : Nat} {p : Predicate}
    (identifier : isIdentifier p.field = true) {w : String} (h : w ∈ wordsOf (predicateText style first p)) :
    w = p.field ∨ w = "=" ∨ ∃ n, first ≤ n ∧ n < first + p.marks ∧ w = placeholderText style n := by
  have equals : wordsOf " = " = ["="] := by decide +kernel
  have begins : ∀ t ∈ (List.range p.marks).map fun i => " = " ++ placeholderText style (first + i),
      Text.BeginsWithGap t.toList := by
    intro t ht
    obtain ⟨i, -, rfl⟩ := List.mem_map.mp ht
    rw [String.toList_append]
    exact Text.beginsWithGap_append (by decide) _
  obtain ⟨words, behind⟩ := Text.wordsOf_join begins
  rw [predicateText, Text.wordsOf_append (.inr behind), words,
    wordsOf_of_isBareWord (isBareWord_of_isIdentifier identifier), List.mem_append,
    List.mem_singleton, List.mem_flatMap] at h
  refine h.imp_right ?_
  rintro ⟨t, ht, hw⟩
  obtain ⟨i, hi, rfl⟩ := List.mem_map.mp ht
  rw [Text.wordsOf_append (.inl (Text.endsWithGap_of_any (by decide))), equals,
    wordsOf_of_isBareWord (isBareWord_placeholderText style _)] at hw
  have within := List.mem_range.mp hi
  rcases List.mem_cons.mp hw with rfl | hw
  · exact .inl rfl
  · exact .inr ⟨first + i, by omega, by omega, List.mem_singleton.mp hw⟩

/-- The words of predicates. -/
theorem mem_predicateTexts {first : Nat} {ps : List Predicate} {t : String}
    (h : t ∈ predicateTexts style first ps) : ∃ p ∈ ps, ∃ n, first ≤ n ∧
      n + p.marks ≤ first + totalMarks ps ∧ t = predicateText style n p := by
  induction ps generalizing first with
  | nil => cases h
  | cons p ps ih =>
    have total : totalMarks (p :: ps) = p.marks + totalMarks ps := rfl
    rcases List.mem_cons.mp h with rfl | h
    · exact ⟨p, List.mem_cons_self, first, Nat.le_refl _, by omega, rfl⟩
    · obtain ⟨r, hr, n, lower, upper, rfl⟩ := ih h
      exact ⟨r, List.mem_cons_of_mem _ hr, n, by omega, by omega, rfl⟩

/-- The words of the WHERE text are of the vocabulary. -/
theorem isTailWord_of_mem_whereText {table : String} {s : Statement} (made : ofQuery q table = .ok s)
    {w : String} (h : w ∈ wordsOf (s.whereText style)) : q.IsTailWord style w := by
  obtain ⟨passed, rfl⟩ := ofQuery_eq_ok_iff.mp made
  obtain ⟨-, fields, -⟩ := check_eq_ok_iff.mp passed
  have separator : wordsOf " AND " = ["AND"] := by decide +kernel
  rcases Text.mem_wordsOf_intercalate (by decide) (by decide) h with h | ⟨t, ht, h⟩
  · rw [separator, List.mem_singleton] at h
    subst h
    exact .keyword (by decide)
  · obtain ⟨p, hp, n, lower, upper, rfl⟩ := mem_predicateTexts ht
    obtain ⟨text, htext, rfl⟩ := List.mem_map.mp hp
    have field : (predicateOf text).field ∈ q.filterFields := List.mem_map_of_mem htext
    have total : totalMarks (q.predicates.map predicateOf) = q.filter.toList.count '?' :=
      Query.totalMarks_eq fields
    rcases mem_wordsOf_predicateText (fields _ field) h with rfl | rfl | ⟨m, hm, hm', rfl⟩
    · exact .field (fields _ field) (.inl field)
    · exact .keyword (by decide)
    · rw [total] at upper
      exact .placeholder (by omega) (by omega)

/-- The words of an order entry: its field and its direction. -/
theorem isTailWord_of_mem_orderText {e : String × Option Direction}
    (identifier : isIdentifier e.1 = true) (field : e ∈ q.orderFields) {w : String}
    (h : w ∈ wordsOf (orderText e)) : q.IsTailWord style w := by
  obtain ⟨f, d⟩ := e
  have word : q.IsTailWord style f := .field identifier (.inr (List.mem_map_of_mem field))
  have words : wordsOf f = [f] := wordsOf_of_isBareWord word.isBareWord
  have directed : ∀ direction : String, BeginsWithGap direction.toList →
      (∀ v ∈ wordsOf direction, v ∈ Query.tailKeywords) → w ∈ wordsOf (f ++ direction) →
        q.IsTailWord style w := by
    intro direction begins known h
    rw [Text.wordsOf_append (.inr begins), words, List.mem_append, List.mem_singleton] at h
    rcases h with rfl | h
    · exact word
    · exact .keyword (known w h)
  rcases d with - | - | -
  case none => exact List.mem_singleton.mp (words ▸ h) ▸ word
  case ascending => exact directed " ASC" (by rintro c ⟨⟩; rfl) (by decide +kernel) h
  case descending => exact directed " DESC" (by rintro c ⟨⟩; rfl) (by decide +kernel) h

/-- The words of an order clause. -/
theorem isTailWord_of_mem_orderTexts {entries : List (String × Option Direction)}
    (identifiers : ∀ e ∈ entries, isIdentifier e.1 = true) (fields : ∀ e ∈ entries, e ∈ q.orderFields)
    {w : String} (h : w ∈ wordsOf (", ".intercalate (entries.map orderText))) :
    q.IsTailWord style w := by
  have separator : wordsOf ", " = [] := by decide +kernel
  rcases Text.mem_wordsOf_intercalate (by decide) (by decide) h with h | ⟨t, ht, h⟩
  · rw [separator] at h
    cases h
  · obtain ⟨e, he, rfl⟩ := List.mem_map.mp ht
    exact isTailWord_of_mem_orderText (identifiers e he) (fields e he) h

end Statement

/-! ## The tail -/

namespace Query

variable {q : Query} {style : Placeholder}

/-- A part of the text behind the table: nothing or words of the vocabulary, the first one behind a
gap. -/
structure IsTailText (q : Query) (style : Placeholder) (text : String) : Prop where
  begins : BeginsWithGap text.toList
  words : ∀ w ∈ wordsOf text, q.IsTailWord style w

theorem IsTailText.empty : q.IsTailText style "" := ⟨nofun, nofun⟩

/-- A part of the text behind the table can be followed by another one. -/
theorem IsTailText.append {before behind : String} (hb : q.IsTailText style before)
    (h : q.IsTailText style behind) : q.IsTailText style (before ++ behind) := by
  refine ⟨by rw [String.toList_append]; exact hb.begins.append h.begins, fun w hw => ?_⟩
  rw [Text.wordsOf_append (.inr h.begins), List.mem_append] at hw
  exact hw.elim (hb.words w) (h.words w)

/-- A clause is its keywords between gaps, and the words that they govern. -/
theorem IsTailText.clause {keywords governed : String}
    (first : keywords.toList.head?.any isGap = true) (last : keywords.toList.getLast?.any isGap = true)
    (hk : ∀ w ∈ wordsOf keywords, w ∈ tailKeywords)
    (hg : ∀ w ∈ wordsOf governed, q.IsTailWord style w) :
    q.IsTailText style (keywords ++ governed) := by
  constructor
  · rw [String.toList_append]
    exact Text.beginsWithGap_append first _
  · intro w hw
    rw [Text.wordsOf_append (.inl (Text.endsWithGap_of_any last)), List.mem_append] at hw
    exact hw.elim (fun h => .keyword (hk w h)) (hg w)

theorem IsTailWord.of_mem_number {n : Nat} (h : q.IsTailWord style (toString n)) :
    ∀ w ∈ wordsOf (toString n), q.IsTailWord style w := by
  intro w hw
  rw [wordsOf_of_isBareWord (isBareWord_number n), List.mem_singleton] at hw
  exact hw ▸ h

/-- The words behind the table. -/
theorem isTailText_tail {table : String} {s : Statement} (made : Statement.ofQuery q table = .ok s) :
    q.IsTailText style (s.tail style) := by
  obtain ⟨passed, hs⟩ := Statement.ofQuery_eq_ok_iff.mp made
  obtain ⟨-, -, fields⟩ := Statement.check_eq_ok_iff.mp passed
  have limit : s.limit = q.limit := by rw [hs]
  have offset : s.offset = q.offset := by rw [hs]
  refine .append (.append (.append ?filter ?order) ?limit) ?offset
  case filter =>
    split
    · exact .empty
    · exact .clause (by decide) (by decide) (by decide +kernel) fun w hw =>
        Statement.isTailWord_of_mem_whereText made hw
  case order =>
    split
    · exact .empty
    case h_2 entries order =>
      have entriesOf : entries = q.orderFields := by
        rw [hs] at order
        dsimp only at order
        split at order
        · cases order
        · exact (Option.some.inj order).symm
      subst entriesOf
      exact .clause (by decide) (by decide) (by decide +kernel) fun w hw =>
        Statement.isTailWord_of_mem_orderTexts fields (fun e he => he) hw
  case limit =>
    split
    · exact .empty
    · exact .clause (by decide) (by decide) (by decide +kernel) (limit ▸ IsTailWord.limit.of_mem_number)
  case offset =>
    split
    · exact .empty
    · exact .clause (by decide) (by decide) (by decide +kernel)
        (offset ▸ IsTailWord.offset.of_mem_number)

/-- **The vocabulary of SQL text.** Where a query has SQL text, the text is the name of the table in a
statement whose other words, between spaces and commas, are the star and columns of the query before
the table, and behind it keywords, placeholders, limit and offset and fields that the query filters
or orders by, all of these fields being identifiers. No meta character stands outside the table. -/
theorem sql_words {table text : String} (rendered : q.sql style table = .ok text) :
    ∃ selected rest, text = "SELECT " ++ selected ++ " FROM " ++ table ++ rest ∧
      (∀ w ∈ wordsOf selected, q.IsSelectWord w) ∧ (∀ w ∈ wordsOf rest, q.IsTailWord style w) ∧
      (∀ c ∈ selected.toList, isMeta c = false) ∧ ∀ c ∈ rest.toList, isMeta c = false := by
  obtain ⟨s, made, rfl⟩ := sql_eq_ok_iff.mp rendered
  obtain ⟨passed, hs⟩ := Statement.ofQuery_eq_ok_iff.mp made
  have selected : ∀ w ∈ wordsOf (", ".intercalate s.columns), q.IsSelectWord w := by
    rw [hs]
    exact fun w => Statement.isSelectWord_of_mem (Statement.check_eq_ok_iff.mp passed).1
  have rest : ∀ w ∈ wordsOf (s.tail style), q.IsTailWord style w := (isTailText_tail made).words
  refine ⟨_, _, ?_, selected, rest, isMeta_of_wordsOf fun w hw => (selected w hw).isBareWord,
    isMeta_of_wordsOf fun w hw => (rest w hw).isBareWord⟩
  rw [Statement.text, hs]

theorem sql_words_of_every_clause :
    ∃ q : Query, q.sql .dollar "users" =
        .ok "SELECT id, *,  FROM users WHERE name = $1 ORDER BY age DESC LIMIT 2" ∧
      ∃ selected rest, "SELECT id, *,  FROM users WHERE name = $1 ORDER BY age DESC LIMIT 2" =
          "SELECT " ++ selected ++ " FROM " ++ "users" ++ rest ∧
        (∀ w ∈ wordsOf selected, q.IsSelectWord w) ∧ (∀ w ∈ wordsOf rest, q.IsTailWord .dollar w) ∧
        (∀ c ∈ selected.toList, isMeta c = false) ∧ ∀ c ∈ rest.toList, isMeta c = false := by
  have text : Statement.text .dollar
      ⟨["id", "*", ""], "users", [⟨"name", 1⟩], some [("age", some .descending)], 2, 0⟩ =
    "SELECT id, *,  FROM users WHERE name = $1 ORDER BY age DESC LIMIT 2" := by decide +kernel
  have rendered : sql ⟨"id,*,", "name=?", "age desc", 2, 0, []⟩ .dollar "users" =
    .ok "SELECT id, *,  FROM users WHERE name = $1 ORDER BY age DESC LIMIT 2" := congrArg Except.ok text
  exact ⟨_, rendered, sql_words rendered⟩

end Query

end NameQuery
