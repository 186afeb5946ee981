import NameQuery.Proofs.Query.Recorded

/-!
# What the gate sees of a name

The gate looks at the fields that are read from the texts of a query, and not at the words of the
name from which the texts were joined. A word of a name can hold the very characters at which the
texts are cut, so what passes is not always an identifier: a column with commas passes if its pieces
do, and an empty piece or a star counts for nothing; a predicate passes with any number of marks
`=?` behind an identifier; an order entry passes with a direction of its own.

What is proved: these are all the fields that pass (`Query.sql_ok_iff_fields_pass`), and where no
recorded field has such a form, exactly the identifiers pass. A query that does not pass is refused
for one of its fields. That other fields pass is shown by a name whose column ends in a comma: its
statement is none (`Query.comma_passes_the_gate`).
-/

set_option autoImplicit false

namespace NameQuery

open Name (entryText)

/-! ## Forms that pass -/

namespace Statement

/-- A column passes if identifiers, stars or nothing stand between its commas. -/
def PassesAsColumn (w : String) : Prop :=
  ∀ p ∈ Text.pieces ',' w.toList, p = [] ∨ p = ['*'] ∨ isIdentifier (String.ofList p) = true

/-- The field of a predicate passes if it is an identifier with any number of marks behind it. -/
def PassesAsPredicate (w : String) : Prop :=
  ∃ f n, isIdentifier f = true ∧ w.toList = f.toList ++ (List.replicate n ['=', '?']).flatten

/-- An order entry passes if between its commas stand identifiers, alone or with a direction, or
nothing. -/
def PassesAsOrder (entry : String) : Prop :=
  ∀ p ∈ Text.pieces ',' entry.toList,
    p = [] ∨ ∃ f d, isIdentifier f = true ∧ String.ofList p = entryText (f, d)

/-- A predicate passes the gate if it is an identifier with any number of marks. -/
theorem isIdentifier_withoutMarks_iff {w : String} :
    isIdentifier (String.ofList (Query.withoutMarks w.toList)) = true ↔ PassesAsPredicate w := by
  constructor
  · intro h
    obtain ⟨n, hn⟩ := Query.exists_marks w.toList
    exact ⟨_, n, h, by rwa [String.toList_ofList]⟩
  · rintro ⟨f, n, hf, hw⟩
    have unmarked : '?' ∉ f.toList := not_mem_of_isIdentifier hf (by decide)
    rw [hw, Query.withoutMarks_append_marks unmarked, String.ofList_toList, hf]

/-- An order entry passes the gate if it is an identifier with or without a direction. -/
theorem isIdentifier_orderField_iff {p : List Char} :
    isIdentifier (Query.orderField p).1 = true ↔
      ∃ f d, isIdentifier f = true ∧ String.ofList p = entryText (f, d) := by
  constructor
  · intro h
    unfold Query.orderField at h
    split at h
    case h_1 field cut =>
      refine ⟨_, some .ascending, h, String.toList_inj.mp ?_⟩
      simp [Text.eq_append_of_cutOnce cut, entryText, Direction.word]
    case h_2 field cut =>
      refine ⟨_, some .descending, h, String.toList_inj.mp ?_⟩
      simp [Text.eq_append_of_cutOnce cut, entryText, Direction.word]
    case h_3 => exact ⟨_, none, h, rfl⟩
  · rintro ⟨f, d, hf, hp⟩
    have unspaced : ' ' ∉ f.toList := not_mem_of_isIdentifier hf (by decide)
    have text : p = (entryText (f, d)).toList := by rw [← hp, String.toList_ofList]
    rw [text, Query.orderField_entryText unspaced, hf]

/-! ## Forms that only identifiers have -/

variable {w : String}

/-- A word of a name without a comma is one piece, and neither empty nor a star. -/
theorem passesAsColumn_iff (small : Name.IsSmallWord w.toList) (h : ',' ∉ w.toList) :
    PassesAsColumn w ↔ isIdentifier w = true := by
  obtain ⟨c, cs, hw, opening⟩ := small.exists_cons
  have nonempty : w.toList ≠ [] := by rw [hw]; exact List.cons_ne_nil c cs
  have star : w.toList ≠ ['*'] := by
    intro he
    cases hw.symm.trans he
    cases opening
  rw [PassesAsColumn, Text.pieces_eq_singleton h, List.forall_mem_singleton, String.ofList_toList,
    or_iff_right nonempty, or_iff_right star]

/-- A field that does not end in a mark passes as a predicate exactly if it is an identifier. -/
theorem passesAsPredicate_iff (h : ¬ ['=', '?'] <:+ w.toList) :
    PassesAsPredicate w ↔ isIdentifier w = true := by
  constructor
  · rintro ⟨f, n, hf, hw⟩
    cases n with
    | zero =>
      rw [List.replicate_zero, List.flatten_nil, List.append_nil, String.toList_inj] at hw
      rwa [hw]
    | succ n =>
      refine absurd ⟨f.toList ++ (List.replicate n ['=', '?']).flatten, ?_⟩ h
      rw [hw, List.replicate_succ', List.flatten_append, List.flatten_singleton, List.append_assoc]
  · exact fun hw => ⟨w, 0, hw, by simp⟩

/-- An order entry with a direction is made of one field and one direction only. -/
theorem eq_of_entryText_eq {f g : String} {d e : Direction}
    (h : entryText (f, some d) = entryText (g, some e)) : f = g := by
  have backwards := congrArg (fun s => s.toList.reverse) h
  cases d <;> cases e <;> simp [entryText, Direction.word] at backwards <;>
    exact String.toList_inj.mp backwards

/-- The order entry of a field without a comma and without a direction of its own. -/
theorem passesAsOrder_iff {d : Option Direction} (small : Name.IsSmallWord w.toList)
    (h : ',' ∉ w.toList) (plain : ∀ f e, w ≠ entryText (f, some e)) :
    PassesAsOrder (entryText (w, d)) ↔ isIdentifier w = true := by
  have text : ∃ rest, (entryText (w, d)).toList = w.toList ++ rest ∧ ',' ∉ rest := by
    rcases d with - | - | -
    · exact ⟨[], by simp [entryText], nofun⟩
    · exact ⟨" asc".toList, by simp [entryText, Direction.word], by decide⟩
    · exact ⟨" desc".toList, by simp [entryText, Direction.word], by decide⟩
  obtain ⟨rest, hrest, behind⟩ := text
  have whole : ',' ∉ (entryText (w, d)).toList := by rw [hrest]; simp [h, behind]
  have nonempty : (entryText (w, d)).toList ≠ [] := by
    obtain ⟨c, cs, hw, -⟩ := small.exists_cons
    rw [hrest, hw]
    exact List.cons_ne_nil c _
  rw [PassesAsOrder, Text.pieces_eq_singleton whole, List.forall_mem_singleton, or_iff_right nonempty,
    String.ofList_toList]
  constructor
  · rintro ⟨f, e, hf, hw⟩
    cases d with
    | none =>
      cases e with
      | none => rwa [show w = f from hw]
      | some e => exact absurd hw (plain f e)
    | some d =>
      cases e with
      | some e => rwa [eq_of_entryText_eq hw]
      | none =>
        -- an identifier does not hold the space before a direction
        have unspaced : ' ' ∉ f.toList := not_mem_of_isIdentifier hf (by decide)
        rw [← show entryText (w, some d) = f from hw] at unspaced
        simp [entryText] at unspaced
  · exact fun hw => ⟨w, d, hw, rfl⟩

end Statement

/-! ## Names -/

/-- No recorded field holds what the texts are cut at or trimmed of: a comma in a column or in the
field of the order, a mark at the end of a predicate, a direction in the field of the order. -/
structure Name.Recorded.IsUncut (r : Name.Recorded) : Prop where
  columns : ∀ w ∈ r.columns, ',' ∉ w.toList
  predicates : ∀ w ∈ r.predicates, ¬ ['=', '?'] <:+ w.toList
  order : ∀ e ∈ r.order, ',' ∉ e.1.toList ∧ ∀ f d, e.1 ≠ entryText (f, some d)

namespace Query

open Statement

variable {name : String} {r : Name.Recorded} {args : List Value}

/-- The columns of a name pass exactly if each of them does. A star passes. -/
theorem forall_columns_iff :
    (∀ f ∈ (ofClauses r.clauses args).columns, isIdentifier f = true) ↔
      ∀ w ∈ r.columns, PassesAsColumn w := by
  constructor
  · intro h w hw p hp
    by_cases ne : p = []
    · exact .inl ne
    by_cases star : p = ['*']
    · exact .inr (.inl star)
    refine .inr (.inr (h _ (mem_columns_ofClauses.mpr ⟨w, List.mem_append_left _ hw, ?_⟩)))
    rw [String.toList_ofList]
    exact ⟨hp, ne, star⟩
  · intro h f hf
    obtain ⟨w, hw, hp, ne, star⟩ := mem_columns_ofClauses.mp hf
    rcases List.mem_append.mp hw with hw | hw
    · have passes := h w hw _ hp
      rwa [or_iff_right ne, or_iff_right star, String.ofList_toList] at passes
    · -- the star of `all` and `one` is one piece, which does not count
      cases List.eq_of_mem_replicate hw
      have one : Text.pieces ',' "*".toList = [['*']] := rfl
      exact absurd (List.mem_singleton.mp (one ▸ hp)) star

/-- The predicates of a name pass exactly if each of them does. -/
theorem forall_filterFields_iff (recorded : Name.Records name r) :
    (∀ f ∈ (ofClauses r.clauses args).filterFields, isIdentifier f = true) ↔
      ∀ w ∈ r.predicates, PassesAsPredicate w := by
  rw [filterFields_ofClauses recorded.plain_filters, Name.Recorded.clauses]
  simp only [List.forall_mem_map]
  refine forall₂_congr fun w _ => ?_
  have unmarked : withoutMarks (w ++ "=?").toList = withoutMarks w.toList := by
    rw [String.toList_append]
    exact withoutMarks_append_mark w.toList
  rw [← isIdentifier_withoutMarks_iff, unmarked]

/-- The order of a name passes exactly if its entry does. -/
theorem forall_orderFields_iff :
    (∀ e ∈ (ofClauses r.clauses args).orderFields, isIdentifier e.1 = true) ↔
      ∀ e ∈ r.order, PassesAsOrder (entryText e) := by
  constructor
  · intro h e he p hp
    by_cases ne : p = []
    · exact .inl ne
    have entry : entryText e ∈ r.clauses.order := by
      simpa [Name.Recorded.clauses] using ⟨e.1, e.2, he, rfl⟩
    exact .inr (isIdentifier_orderField_iff.mp
      (h _ (mem_orderFields_ofClauses.mpr ⟨_, entry, p, hp, ne, rfl⟩)))
  · intro h e he
    obtain ⟨w, hw, p, hp, ne, rfl⟩ := mem_orderFields_ofClauses.mp he
    obtain ⟨e, he, rfl⟩ : ∃ e ∈ r.order, entryText e = w := by
      simpa [Name.Recorded.clauses] using hw
    exact isIdentifier_orderField_iff.mpr ((h e he p hp).resolve_left ne)

/-- Where no recorded field is cut, exactly the identifiers pass. -/
theorem fields_pass_iff (recorded : Name.Records name r) (uncut : r.IsUncut) :
    ((∀ w ∈ r.columns, PassesAsColumn w) ∧ (∀ w ∈ r.predicates, PassesAsPredicate w) ∧
        ∀ e ∈ r.order, PassesAsOrder (entryText e)) ↔
      ∀ w ∈ r.fields, isIdentifier w = true := by
  have small : ∀ {w}, w ∈ r.columns → Name.IsSmallWord w.toList := fun hw =>
    recorded.isSmallWord _ (List.mem_append_left _ (List.mem_append_left _ hw))
  have ordered : ∀ e ∈ r.order, Name.IsSmallWord e.1.toList := fun e he =>
    recorded.isSmallWord _ (List.mem_append_right _ (by rw [he]; exact List.mem_cons_self))
  have columns : (∀ w ∈ r.columns, PassesAsColumn w) ↔ ∀ w ∈ r.columns, isIdentifier w = true :=
    forall₂_congr fun w hw => passesAsColumn_iff (small hw) (uncut.columns w hw)
  have predicates : (∀ w ∈ r.predicates, PassesAsPredicate w) ↔
      ∀ w ∈ r.predicates, isIdentifier w = true :=
    forall₂_congr fun w hw => passesAsPredicate_iff (uncut.predicates w hw)
  have order : (∀ e ∈ r.order, PassesAsOrder (entryText e)) ↔
      ∀ e ∈ r.order, isIdentifier e.1 = true :=
    forall₂_congr fun e he =>
      passesAsOrder_iff (ordered e he) (uncut.order e he).1 (uncut.order e he).2
  rw [columns, predicates, order, Name.Recorded.fields, List.forall_mem_append,
    List.forall_mem_append, and_assoc]
  cases r.order <;> simp

/-- **What the gate lets through.** A name that compiles has SQL text exactly if each recorded field
passes in its clause: a column whose pieces between commas are identifiers, stars or empty, a predicate
that is an identifier with marks behind it, an order entry whose pieces are identifiers, each with a
direction or without, or empty. Where no field is cut, exactly the identifiers pass. A name without
SQL text is refused for a field that is no identifier. -/
theorem sql_ok_iff_fields_pass {q : Query} (compiled : ofName name args = .ok q)
    (style : Placeholder) (table : String) :
    ∃ r, Name.Records name r ∧
      ((∃ text, q.sql style table = .ok text) ↔
        (∀ w ∈ r.columns, PassesAsColumn w) ∧ (∀ w ∈ r.predicates, PassesAsPredicate w) ∧
          ∀ e ∈ r.order, PassesAsOrder (entryText e)) ∧
      (r.IsUncut →
        ((∃ text, q.sql style table = .ok text) ↔ ∀ w ∈ r.fields, isIdentifier w = true)) ∧
      ∀ why, q.sql style table = .error why →
        ∃ clause field, isIdentifier field = false ∧ why = .invalidField clause field := by
  obtain ⟨r, recorded, rfl⟩ := Name.exists_records compiled
  have passes : (∃ text, (ofClauses r.clauses args).sql style table = .ok text) ↔
      (∀ w ∈ r.columns, PassesAsColumn w) ∧ (∀ w ∈ r.predicates, PassesAsPredicate w) ∧
        ∀ e ∈ r.order, PassesAsOrder (entryText e) := by
    rw [exists_sql_iff, check_eq_ok_iff, forall_columns_iff, forall_filterFields_iff recorded,
      forall_orderFields_iff]
  refine ⟨r, recorded, passes, fun uncut => passes.trans (fields_pass_iff recorded uncut), ?_⟩
  exact fun why h => check_eq_error (sql_eq_error_iff.mp h)

theorem sql_ok_iff_fields_pass_of_cut_fields :
    ∃ q r, ofName "findId,nameByStatus=?OrderedByAge,id desc" [.string "on"] = .ok q ∧
      Name.Records "findId,nameByStatus=?OrderedByAge,id desc" r ∧
      r = ⟨["id,name"], 0, ["status=?"], some ("age,id desc", none), false⟩ ∧
      q.sql .question "users" =
        .ok "SELECT id, name FROM users WHERE status = ? = ? ORDER BY age, id DESC" ∧
      PassesAsColumn "id,name" ∧ PassesAsPredicate "status=?" ∧ PassesAsOrder "age,id desc" := by
  have compiled : ofName "findId,nameByStatus=?OrderedByAge,id desc" [.string "on"] =
    .ok ⟨"id,name", "status=?=?", "age,id desc", 0, 0, [.string "on"]⟩ := rfl
  have text : Statement.text .question ⟨["id", "name"], "users", [⟨"status", 2⟩],
    some [("age", none), ("id", some .descending)], 0, 0⟩ =
      "SELECT id, name FROM users WHERE status = ? = ? ORDER BY age, id DESC" := by decide +kernel
  have rendered : sql ⟨"id,name", "status=?=?", "age,id desc", 0, 0, [.string "on"]⟩ .question "users" =
    .ok "SELECT id, name FROM users WHERE status = ? = ? ORDER BY age, id DESC" := congrArg Except.ok text
  obtain ⟨r, recorded, passes, -, -⟩ := sql_ok_iff_fields_pass compiled .question "users"
  have only : Name.Records "findId,nameByStatus=?OrderedByAge,id desc"
      ⟨["id,name"], 0, ["status=?"], some ("age,id desc", none), false⟩ :=
    .mk ["id,name", "by", "status=?", "ordered", "by", "age,id desc"] rfl rfl rfl (by decide) rfl rfl
      (by decide)
  obtain rfl := recorded.unique only
  obtain ⟨columns, predicates, order⟩ := passes.mp ⟨_, rendered⟩
  exact ⟨_, _, compiled, only, rfl, rendered, columns _ (by simp), predicates _ (by simp), order _ rfl⟩

/-- A column that ends in a comma passes, though it is no identifier, and what goes out is no
statement. -/
theorem comma_passes_the_gate :
    ∃ q, ofName "findId," [] = .ok q ∧ Name.Records "findId," ⟨["id,"], 0, [], none, false⟩ ∧
      isIdentifier "id," = false ∧ q.sql .question "users" = .ok "SELECT id,  FROM users" := by
  have text : Statement.text .question ⟨["id", ""], "users", [], none, 0, 0⟩ =
    "SELECT id,  FROM users" := by decide +kernel
  exact ⟨⟨"id,", "", "", 0, 0, []⟩, rfl, .mk ["id,"] rfl rfl rfl (by decide) rfl rfl (by decide), by decide,
    congrArg Except.ok text⟩

end Query

end NameQuery
