import NameQuery.Log
import NameQuery.Proofs.Name.Rules

/-!
# What becomes of the words

Every word of a name that is read well has one place in what the reading comes to. The words at the
end that the reading passed over are in the log, in one warning (`Outcome.ignored`). The words
before them are consumed: a keyword leaves its traces in the columns and in the limit, and the other
words are, in their order, the columns, the fields of the predicates, and the field of the order
entry with its direction (`readWords_accounts`).

The account of a reading is kept for every place that it can start from (`Accounts`), so that each
rule adds its word to the account of the rest.
-/

set_option autoImplicit false

namespace NameQuery.Name

/-! ## Warnings -/

/-- The words that a step passes over. -/
def Step.ignored? : Step → Option (List String)
  | .rule _ _ => none
  | .ignoredAfterField _ ws => some ws
  | .ignoredAfterOrder ws => some ws

/-- The steps that pass over words are the ones that a log shows without being asked for more. -/
theorem warnings_shows_step (s : Step) :
    Verbosity.warnings.shows (.step s) = s.ignored?.isSome := by
  cases s <;> rfl

namespace Outcome

/-- The words of each warning of a reading. -/
def warnings (o : Outcome) : List (List String) := o.steps.filterMap Step.ignored?

/-- The words of the first warning of a reading, and none where there is no warning. -/
def ignored (o : Outcome) : List String := o.warnings.head?.getD []

/-- Entering a rule ignores no words. -/
@[simp] theorem ignored_after_rule (k : Keyword) (ws : List String) (o : Outcome) :
    (o.after (.rule k ws)).ignored = o.ignored := rfl

end Outcome

/-! ## The account of a reading -/

/-- The columns that a reading starts with: the words before the first keyword. -/
def leading : Place → List String → List String
  | .columns, ws => ws.takeWhile (IsField ·)
  | .under _, _ => []

/-- No field stands before a keyword that comes first. -/
@[simp] theorem leading_keyword (p : Place) (k : Keyword) (ws : List String) :
    leading p (k.word :: ws) = [] := by
  cases p <;> simp [leading]

/-- The number of the words that ask for every column. -/
def everys (ws : List String) : Nat := ws.count Keyword.all.word + ws.count Keyword.one.word

/-- The words of a reading from a place on are the consumed ones and the ignored ones, and the
clauses are made of the consumed ones. -/
structure Accounts (p : Place) (ws : List String) (c : Clauses) (o : Outcome)
    (consumed predicates : List String) (order : Option (String × Option Direction)) : Prop where
  split : ws = consumed ++ o.ignored
  warned : o.warnings = if o.ignored = [] then [] else [o.ignored]
  fields : consumed.filter (IsField ·) = leading p ws ++ predicates ++ order.elim [] entryWords
  select : o.clauses.select =
    (p.enter c).select ++ leading p ws ++ List.replicate (everys consumed) "*"
  filters : o.clauses.filters = c.filters ++ predicates.map (· ++ "=?")
  order : o.clauses.order = c.order ++ (order.map entryText).toList
  limit : o.clauses.limit = if Keyword.one.word ∈ consumed then some 1 else (p.enter c).limit
  offset : o.clauses.offset = c.offset

/-- A keyword and the words after it select as many columns as the keyword and they. -/
theorem enter_select (k : Keyword) (c : Clauses) (consumed : List String) :
    ((Place.under k).enter c).select ++ List.replicate (everys consumed) "*" =
      c.select ++ List.replicate (everys (k.word :: consumed)) "*" := by
  cases k <;>
    simp [Place.enter, Clauses.addEveryColumn, Clauses.addColumn, Clauses.limitToOne, everys,
      List.replicate_succ, Keyword.word, ← Nat.add_assoc, Nat.add_right_comm]

/-- A field does not ask for every column. -/
theorem everys_field {w : String} (field : IsField w) (consumed : List String) :
    everys (w :: consumed) = everys consumed := by
  simp only [everys, List.count_cons_of_ne (field .all).symm, List.count_cons_of_ne (field .one).symm]

/-- A field in front of words does not put the keyword `one` among them. -/
theorem one_mem_cons_field {w : String} (field : IsField w) {consumed : List String} :
    Keyword.one.word ∈ w :: consumed ↔ Keyword.one.word ∈ consumed :=
  List.mem_cons.trans (or_iff_right (field .one))

/-! ## Each rule accounts for its word -/

theorem Accounts.ends (p : Place) (c : Clauses) :
    Accounts p [] c (.done (p.enter c)) [] [] none where
  split := rfl
  warned := rfl
  fields := by cases p <;> rfl
  select := by cases p <;> simp [leading, everys]
  filters := by simp [enter_filters]
  order := by simp [enter_order]
  limit := rfl
  offset := enter_offset p c

/-- A keyword that takes over adds its word to what is consumed. -/
theorem Accounts.keyword {p : Place} {k : Keyword} {ws : List String} {c : Clauses} {o : Outcome}
    {consumed predicates : List String} {order : Option (String × Option Direction)}
    (h : Accounts (.under k) ws (p.enter c) o consumed predicates order) :
    Accounts p (k.word :: ws) c (o.after (.rule k ws)) (k.word :: consumed) predicates order where
  split := by rw [h.split, Outcome.ignored_after_rule, ← h.split]; exact congrArg _ h.split
  warned := h.warned
  fields := by
    rw [leading_keyword, List.filter_cons_of_neg (by simp), h.fields]
    rfl
  select := by
    rw [Outcome.after_clauses, h.select, leading_keyword, List.append_nil, leading, List.append_nil,
      enter_select]
  filters := by rw [Outcome.after_clauses, h.filters, enter_filters]
  order := by rw [Outcome.after_clauses, h.order, enter_order]
  limit := by
    rw [Outcome.after_clauses, h.limit, enter_limit]
    simp only [List.mem_cons, Keyword.word_inj, eq_comm]
  offset := by rw [Outcome.after_clauses, h.offset, enter_offset]

/-- A keyword after `ordered by` adds the word `by` as well. -/
theorem Accounts.orderKeyword {k : Keyword} {ws : List String} {c : Clauses} {o : Outcome}
    {consumed predicates : List String} {order : Option (String × Option Direction)}
    (h : Accounts (.under k) ws c o consumed predicates order) :
    Accounts (.under .ordered) (Keyword.by.word :: k.word :: ws) c (o.after (.rule k ws))
      (Keyword.by.word :: k.word :: consumed) predicates order := by
  -- the word `by` writes nothing here, as where `k` takes over directly after the keyword `by`
  have a : Accounts (.under .ordered) (Keyword.by.word :: k.word :: ws) c _ _ _ _ :=
    Accounts.keyword (k := .by) (Accounts.keyword (p := .under .by) h)
  exact ⟨a.split, a.warned, a.fields, a.select, a.filters, a.order, a.limit, a.offset⟩

/-- A column is the first of the columns. -/
theorem Accounts.column {w : String} {ws : List String} {c : Clauses} {o : Outcome}
    {consumed predicates : List String} {order : Option (String × Option Direction)}
    (field : IsField w) (h : Accounts .columns ws (c.addColumn w) o consumed predicates order) :
    Accounts .columns (w :: ws) c o (w :: consumed) predicates order where
  split := by rw [List.cons_append, ← h.split]
  warned := h.warned
  fields := by
    rw [List.filter_cons_of_pos (by simpa using field), h.fields, leading, leading,
      List.takeWhile_cons_of_pos (by simpa using field), List.cons_append, List.cons_append]
  select := by
    rw [h.select, leading, leading, List.takeWhile_cons_of_pos (by simpa using field),
      everys_field field]
    simp [Place.enter, Clauses.addColumn]
  filters := h.filters
  order := h.order
  limit := by
    rw [h.limit]
    simp only [one_mem_cons_field field]
    rfl
  offset := h.offset

/-- A predicate is the first of the predicates. -/
theorem Accounts.predicate {w : String} {ws : List String} {c : Clauses} {o : Outcome}
    {consumed predicates : List String} {order : Option (String × Option Direction)}
    (field : IsField w)
    (h : Accounts (.under .by) ws (c.addPredicate w) o consumed predicates order) :
    Accounts (.under .by) (w :: ws) c o (w :: consumed) (w :: predicates) order where
  split := by rw [List.cons_append, ← h.split]
  warned := h.warned
  fields := by
    rw [List.filter_cons_of_pos (by simpa using field), h.fields]
    rfl
  select := by
    rw [h.select, everys_field field]
    rfl
  filters := by
    rw [h.filters]
    simp [Clauses.addPredicate]
  order := h.order
  limit := by
    rw [h.limit]
    simp only [one_mem_cons_field field]
    rfl
  offset := h.offset

/-- The words after the field of `and` are ignored. -/
theorem Accounts.lastPredicate {w : String} (ws : List String) (c : Clauses) (field : IsField w) :
    Accounts (.under .and) (w :: ws) c (endInField c w ws) [w] [w] none where
  split := by cases ws <;> rfl
  warned := by cases ws <;> rfl
  fields := List.filter_cons_of_pos (by simpa using field)
  select := by
    rw [everys_field field]
    simp [endInField, Clauses.addPredicate, Place.enter, leading, everys]
  filters := rfl
  order := by simp [endInField, Clauses.addPredicate]
  limit := by
    simp only [one_mem_cons_field field]
    rfl
  offset := rfl

/-- The words after an order entry are ignored, and the entry has the words that it is made of. -/
theorem Accounts.orderField {w : String} (ws : List String) (c : Clauses) (field : IsField w) :
    ∃ d, Accounts (.under .ordered) (Keyword.by.word :: w :: ws) c (endInOrder c w ws)
      (Keyword.by.word :: entryWords (w, d)) [] (some (w, d)) := by
  obtain ⟨d, rest, ends, rfl⟩ := exists_entryEnds ws
  have named : ∀ v ∈ entryWords (w, d), IsField v := by
    cases d with
    | none => simpa [entryWords] using field
    | some d => simpa [entryWords] using ⟨field, isField_direction d⟩
  have kept : (entryWords (w, d)).filter (IsField ·) = entryWords (w, d) :=
    List.filter_eq_self.mpr fun v hv => by simpa using named v hv
  have absent : ∀ k : Keyword, k.word ∉ entryWords (w, d) := fun k hk => not_isField_word k (named _ hk)
  refine ⟨d, ?_⟩
  rw [endInOrder_of_entryEnds ends]
  exact {
    split := by cases rest <;> simp [entryWords, Outcome.ignored, Outcome.warnings, Step.ignored?]
    warned := by cases rest <;> rfl
    fields := by rw [List.filter_cons_of_neg (by simp), kept]; rfl
    select := by
      simp [Clauses.addOrder, Place.enter, leading, everys, List.count_eq_zero.mpr (absent _)]
    filters := by simp [Clauses.addOrder]
    order := rfl
    limit := by simp [Place.enter, Clauses.addOrder, absent]
    offset := rfl }

/-- Every reading that gets through has an account. -/
theorem exists_accounts {p : Place} {ws : List String} {c : Clauses} {o : Outcome}
    (h : Reads p ws c o) (ok : o.failure = none) :
    ∃ consumed predicates order, Accounts p ws c o consumed predicates order := by
  induction h with
  | ends => exact ⟨_, _, _, .ends _ _⟩
  | keyword _ _ ih =>
    obtain ⟨_, _, _, a⟩ := ih ok
    exact ⟨_, _, _, a.keyword⟩
  | column field _ ih =>
    obtain ⟨_, _, _, a⟩ := ih ok
    exact ⟨_, _, _, a.column field⟩
  | predicate field _ ih =>
    obtain ⟨_, _, _, a⟩ := ih ok
    exact ⟨_, _, _, a.predicate field⟩
  | lastPredicate field => exact ⟨_, _, _, .lastPredicate _ _ field⟩
  | unknown | malformed => cases ok
  | orderKeyword _ ih =>
    obtain ⟨_, _, _, a⟩ := ih ok
    exact ⟨_, _, _, a.orderKeyword⟩
  | orderField field =>
    obtain ⟨_, a⟩ := Accounts.orderField _ _ field
    exact ⟨_, _, _, a⟩

/-- **No word is lost, repeated or moved.** The words of a name that is read well are the consumed
ones and behind them the ignored ones, which the log shows in its one warning. The consumed words
without the keywords are the columns, the fields of the predicates, and the field of the order entry
with its direction, in this order; and nothing but these, and a `*` for each `all` and `one` that was
consumed, is in the clauses. The limit is one exactly if a `one` was consumed, and there is no
offset. -/
theorem readWords_accounts (ws : List String) (ok : (readWords ws {}).failure = none) :
    (readWords ws {}).warnings.length ≤ 1 ∧
    (∀ words ∈ (readWords ws {}).warnings, words ≠ []) ∧
    ∃ (consumed predicates : List String) (order : Option (String × Option Direction)),
      ws = consumed ++ (readWords ws {}).ignored ∧
      consumed.filter (IsField ·) =
        ws.takeWhile (IsField ·) ++ predicates ++ order.elim [] entryWords ∧
      (readWords ws {}).clauses = {
        select := ws.takeWhile (IsField ·) ++
          List.replicate (consumed.count Keyword.all.word + consumed.count Keyword.one.word) "*"
        filters := predicates.map (· ++ "=?")
        order := (order.map entryText).toList
        limit := if Keyword.one.word ∈ consumed then some 1 else none
        offset := none } := by
  obtain ⟨consumed, predicates, order, a⟩ := exists_accounts (reads_read .columns ws {}) ok
  have one : (readWords ws {}).warnings.length ≤ 1 ∧
      ∀ words ∈ (readWords ws {}).warnings, words ≠ [] := by
    rw [readWords, a.warned]
    split
    · simp
    · simpa using by assumption
  refine ⟨one.1, one.2, consumed, predicates, order, a.split, a.fields, ?_⟩
  exact Clauses.ext a.select a.filters a.order a.limit a.offset

theorem readWords_accounts_of_selected_order :
    (readWords ["id", "all", "by", "name", "ordered", "by", "age", "desc", "by", "id"] {}).failure =
      none ∧
    ∃ (consumed predicates : List String) (order : Option (String × Option Direction)),
      ["id", "all", "by", "name", "ordered", "by", "age", "desc", "by", "id"] = consumed ++ ["by", "id"] ∧
      consumed.filter (IsField ·) = ["id"] ++ predicates ++ order.elim [] entryWords := by
  have ok : (readWords ["id", "all", "by", "name", "ordered", "by", "age", "desc", "by", "id"]
    {}).failure = none := by decide
  obtain ⟨_, _, consumed, predicates, order, split, fields, _⟩ := readWords_accounts _ ok
  exact ⟨ok, consumed, predicates, order, split, fields⟩

end NameQuery.Name
