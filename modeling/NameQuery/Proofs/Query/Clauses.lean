import NameQuery.Proofs.Name.Rules
import NameQuery.Proofs.Text.Pieces

/-!
# Clauses in a query

A query holds its clauses as three texts, and whoever answers it cuts these texts again. The lemmas
here say when that gives back what the texts were joined from: columns and order entries without a
comma, predicates without the letter `A` of the separator ` AND `, none of them empty. The words of a
name hold no capitals, so the predicates of a name always come back.
-/

set_option autoImplicit false

namespace NameQuery.Query

open Text (pieces_intercalate piecesAt_intercalate cutOnce_append cutOnce_eq_none)

variable {c : Name.Clauses} {values : List Value}

/-! ## Marks -/

/-- A mark at the end of a predicate is dropped. -/
theorem withoutMarks_append_mark (p : List Char) :
    withoutMarks (p ++ ['=', '?']) = withoutMarks p := by
  unfold withoutMarks
  rw [List.reverse_append]
  rfl

/-- A predicate that does not end in a question mark has no mark. -/
theorem withoutMarks_eq_self {p : List Char} (h : '?' ∉ p) : withoutMarks p = p := by
  have unmarked : dropMarks p.reverse = p.reverse := by
    unfold dropMarks
    split
    · next heq => exact absurd (List.mem_reverse.mp (heq ▸ List.mem_cons_self)) h
    · rfl
  rw [withoutMarks, unmarked, List.reverse_reverse]

/-- An unmarked text with any number of marks behind it is the text again without its marks. -/
theorem withoutMarks_append_marks {f : List Char} (h : '?' ∉ f) (n : Nat) :
    withoutMarks (f ++ (List.replicate n ['=', '?']).flatten) = f := by
  induction n with
  | zero => rw [List.replicate_zero, List.flatten_nil, List.append_nil, withoutMarks_eq_self h]
  | succ n ih =>
    rw [List.replicate_succ', List.flatten_append, List.flatten_singleton, ← List.append_assoc,
      withoutMarks_append_mark, ih]

/-- A predicate is what is left without its marks, and the marks. -/
theorem exists_marks (p : List Char) :
    ∃ n, p = withoutMarks p ++ (List.replicate n ['=', '?']).flatten := by
  have backwards : ∀ cs, ∃ n, cs = (List.replicate n ['?', '=']).flatten ++ dropMarks cs := by
    intro cs
    fun_induction dropMarks cs with
    | case1 cs ih =>
      obtain ⟨n, hn⟩ := ih
      refine ⟨n + 1, ?_⟩
      rw [List.replicate_succ, List.flatten_cons, List.append_assoc, ← hn]
      rfl
    | case2 cs => exact ⟨0, rfl⟩
  obtain ⟨n, hn⟩ := backwards p.reverse
  refine ⟨n, ?_⟩
  have forwards := congrArg List.reverse hn
  rw [List.reverse_reverse, List.reverse_append, List.reverse_flatten, List.map_replicate,
    List.reverse_replicate] at forwards
  exact forwards

/-! ## Joined texts -/

/-- Joined texts are empty only where there are none, if none of them is empty. -/
theorem intercalate_eq_empty {sep : String} {l : List String} (h : ∀ t ∈ l, t ≠ "") :
    sep.intercalate l = "" ↔ l = [] := by
  constructor
  · intro he
    cases l with
    | nil => rfl
    | cons t l =>
      have ht : t.toList ≠ [] := fun e => h t List.mem_cons_self (String.toList_inj.mp (by simpa using e))
      have ne : (sep.intercalate (t :: l)).toList = [] := by rw [he]; rfl
      rw [String.toList_intercalate] at ne
      cases l with
      | nil => exact absurd (by simpa using ne) (h t List.mem_cons_self)
      | cons u l =>
        simp only [List.map_cons, List.intercalate_cons_cons, List.append_eq_nil_iff] at ne
        exact absurd ne.1.1 ht
  · rintro rfl
    exact String.intercalate_nil

/-- Pieces that were joined with commas come apart again, and an empty text has no piece. -/
theorem pieces_ofClauses {l : List String} (h : ∀ t ∈ l, t ≠ "" ∧ ',' ∉ t.toList) :
    (Text.pieces ',' (",".intercalate l).toList).filter (fun p => !p.isEmpty) = l.map String.toList := by
  cases l with
  | nil => rfl
  | cons t l =>
    have plain : ∀ p ∈ (t :: l).map String.toList, ',' ∉ p ∧ p ≠ [] := by
      intro p hp
      obtain ⟨u, hu, rfl⟩ := List.mem_map.mp hp
      exact ⟨(h u hu).2, fun e => (h u hu).1 (String.toList_inj.mp e)⟩
    have comma : ",".toList = [','] := rfl
    rw [String.toList_intercalate, comma, pieces_intercalate (fun p hp => (plain p hp).1) (by simp),
      List.filter_eq_self]
    intro p hp
    simp [(plain p hp).2]

/-- The pieces of joined texts that are not empty are those of each text. -/
theorem mem_pieces_ofClauses {l : List String} {p : List Char} :
    (p ∈ Text.pieces ',' (",".intercalate l).toList ∧ p ≠ []) ↔
      ∃ t ∈ l, p ∈ Text.pieces ',' t.toList ∧ p ≠ [] := by
  cases l with
  | nil => simp [Text.pieces]
  | cons t l =>
    have comma : ",".toList = [','] := rfl
    rw [String.toList_intercalate, comma, Text.pieces_intercalate_eq_flatMap ',' (by simp),
      List.flatMap_map, List.mem_flatMap]
    constructor
    · rintro ⟨⟨u, hu, hp⟩, ne⟩
      exact ⟨u, hu, hp, ne⟩
    · rintro ⟨u, hu, hp, ne⟩
      exact ⟨⟨u, hu, hp⟩, ne⟩

/-- The columns that a query reads are the pieces of the joined ones, but for `*`. -/
theorem mem_columns_ofClauses {f : String} :
    f ∈ (ofClauses c values).columns ↔
      ∃ w ∈ c.select, f.toList ∈ Text.pieces ',' w.toList ∧ f.toList ≠ [] ∧ f.toList ≠ ['*'] := by
  have split := mem_pieces_ofClauses (l := c.select) (p := f.toList)
  constructor
  · intro h
    obtain ⟨p, hp, rfl⟩ := List.mem_map.mp h
    obtain ⟨hp, kept⟩ := List.mem_filter.mp hp
    rw [String.toList_ofList] at split ⊢
    simp only [Bool.and_eq_true, Bool.not_eq_true', List.isEmpty_eq_false_iff, bne_iff_ne] at kept
    obtain ⟨w, hw, hp, ne⟩ := split.mp ⟨hp, kept.1⟩
    exact ⟨w, hw, hp, ne, kept.2⟩
  · rintro ⟨w, hw, hp, ne, other⟩
    refine List.mem_map.mpr ⟨f.toList, List.mem_filter.mpr ⟨(split.mpr ⟨w, hw, hp, ne⟩).1, ?_⟩,
      String.ofList_toList⟩
    simp [ne, other]

/-- The order entries that a query reads are the pieces of the joined ones. -/
theorem mem_orderFields_ofClauses {e : String × Option Direction} :
    e ∈ (ofClauses c values).orderFields ↔
      ∃ w ∈ c.order, ∃ p ∈ Text.pieces ',' w.toList, p ≠ [] ∧ orderField p = e := by
  rw [orderFields, List.mem_map]
  constructor
  · rintro ⟨p, hp, he⟩
    obtain ⟨hp, kept⟩ := List.mem_filter.mp hp
    obtain ⟨w, hw, hp, ne⟩ := mem_pieces_ofClauses.mp ⟨hp, by simpa using kept⟩
    exact ⟨w, hw, p, hp, ne, he⟩
  · rintro ⟨w, hw, p, hp, ne, he⟩
    have joined := mem_pieces_ofClauses.mpr ⟨w, hw, hp, ne⟩
    exact ⟨p, List.mem_filter.mpr ⟨joined.1, by simpa using ne⟩, he⟩

/-- The columns that a query reads are the joined ones, but for `*`. -/
theorem columns_ofClauses (h : ∀ w ∈ c.select, w ≠ "" ∧ ',' ∉ w.toList) :
    (ofClauses c values).columns = c.select.filter (· ≠ "*") := by
  have star : ∀ w : String, (w.toList != ['*']) = decide (w ≠ "*") := by
    intro w
    rw [Bool.eq_iff_iff, bne_iff_ne, decide_eq_true_iff, Ne, Ne, ← String.toList_inj]
    exact Iff.rfl
  have split : (Text.pieces ',' (ofClauses c values).select.toList).filter
      (fun p => !p.isEmpty && p != ['*']) = (c.select.map String.toList).filter (· != ['*']) := by
    simp only [Bool.and_comm (!List.isEmpty _)]
    rw [← List.filter_filter, ofClauses, pieces_ofClauses h]
  rw [columns, split]
  simp [List.filter_map, Function.comp_def, star]

/-- The predicates that a query reads are the joined ones, where none has a letter of the separator. -/
theorem predicates_ofClauses (h : ∀ p ∈ c.filters, p ≠ "" ∧ 'A' ∉ p.toList) :
    (ofClauses c values).predicates = c.filters.map String.toList := by
  have empty : " AND ".intercalate c.filters = "" ↔ c.filters = [] :=
    intercalate_eq_empty fun p hp => (h p hp).1
  rw [predicates, ofClauses]
  by_cases hc : c.filters = []
  · rw [if_pos (String.isEmpty_iff.mpr (empty.mpr hc)), hc]
    rfl
  · have separator : " AND ".toList = [' '] ++ 'A' :: ['N', 'D', ' '] := rfl
    have plain : ∀ p ∈ c.filters.map String.toList, 'A' ∉ p := by
      intro p hp
      obtain ⟨t, ht, rfl⟩ := List.mem_map.mp hp
      exact (h t ht).2
    rw [if_neg (fun he => hc (empty.mp (String.isEmpty_iff.mp he))), String.toList_intercalate,
      separator, piecesAt_intercalate (by decide) plain (by simpa using hc)]

/-- The filter fields that a query reads are the joined predicates, each without its marks. -/
theorem filterFields_ofClauses (h : ∀ p ∈ c.filters, p ≠ "" ∧ 'A' ∉ p.toList) :
    (ofClauses c values).filterFields = c.filters.map fun p => String.ofList (withoutMarks p.toList) := by
  rw [filterFields, predicates_ofClauses h, List.map_map]
  rfl

/-- A query expects a value for each predicate that it was made of, where no predicate has a letter
of the separator. -/
theorem placeholderCount_ofClauses (h : ∀ p ∈ c.filters, p ≠ "" ∧ 'A' ∉ p.toList) :
    (ofClauses c values).placeholderCount = c.filters.length := by
  rw [placeholderCount, filterFields_ofClauses h, List.length_map]

/-- The order entries that a query reads are the joined ones, where none has a comma. -/
theorem orderFields_ofClauses (h : ∀ e ∈ c.order, e ≠ "" ∧ ',' ∉ e.toList) :
    (ofClauses c values).orderFields = c.order.map fun e => orderField e.toList := by
  rw [orderFields, ofClauses, pieces_ofClauses h, List.map_map]
  rfl

/-- An order entry reads as what it was made of. -/
theorem orderField_entryText {field : String} (h : ' ' ∉ field.toList) (d : Option Direction) :
    orderField (Name.entryText (field, d)).toList = (field, d) := by
  cases d with
  | none => rw [Name.entryText, orderField, cutOnce_eq_none h, String.ofList_toList]
  | some d =>
    have text : (Name.entryText (field, some d)).toList = field.toList ++ ' ' :: d.word.toList := by
      simp [Name.entryText]
    rw [text, orderField, cutOnce_append h]
    cases d <;> simp [Direction.word, String.ofList_toList]

end NameQuery.Query
