import NameQuery.Proofs.Name.Rules

/-!
# Clauses that are there before a reading

A reading adds to clauses. Here this is an equation: reading words from clauses `c` that stand before
`d` is reading them from `d`, with `c` before all that the reading leaves (`read_followedBy`). So the
rules never look at clauses; the steps and the failure of a reading are those of the words alone, and
clauses that are there already are kept as they are, apart from a limit, which a later one replaces.

Which limit a reading leaves is told by its steps: one where the rule of `one` was entered, and else the
one that it found (`readings_only_add`).
-/

set_option autoImplicit false

namespace NameQuery.Name

namespace Clauses

/-- Clauses with others behind them. A limit or an offset of the later ones counts. -/
def followedBy (c d : Clauses) : Clauses where
  select := c.select ++ d.select
  filters := c.filters ++ d.filters
  order := c.order ++ d.order
  limit := d.limit.or c.limit
  offset := d.offset.or c.offset

variable (c d : Clauses)

@[simp] theorem followedBy_empty : c.followedBy {} = c := by
  simp [followedBy]

@[simp] theorem followedBy_addColumn (field : String) :
    c.followedBy (d.addColumn field) = (c.followedBy d).addColumn field := by
  simp [followedBy, addColumn]

@[simp] theorem followedBy_addEveryColumn :
    c.followedBy d.addEveryColumn = (c.followedBy d).addEveryColumn := followedBy_addColumn c d "*"

@[simp] theorem followedBy_limitToOne : c.followedBy d.limitToOne = (c.followedBy d).limitToOne := by
  simp [followedBy, limitToOne]

@[simp] theorem followedBy_addPredicate (field : String) :
    c.followedBy (d.addPredicate field) = (c.followedBy d).addPredicate field := by
  simp [followedBy, addPredicate]

@[simp] theorem followedBy_addOrder (entry : String) :
    c.followedBy (d.addOrder entry) = (c.followedBy d).addOrder entry := by
  simp [followedBy, addOrder]

end Clauses

namespace Outcome

def behind (c : Clauses) (o : Outcome) : Outcome := { o with clauses := c.followedBy o.clauses }

variable (c d : Clauses)

@[simp] theorem behind_done : (done d).behind c = done (c.followedBy d) := rfl

@[simp] theorem behind_failed (why : Failure) :
    (failed d why).behind c = failed (c.followedBy d) why := rfl

@[simp] theorem behind_after (step : Step) (o : Outcome) :
    (o.after step).behind c = (o.behind c).after step := rfl

end Outcome

/-- What a rule writes when it is entered is written behind the clauses that are there. -/
theorem followedBy_enter (p : Place) (c d : Clauses) :
    c.followedBy (p.enter d) = p.enter (c.followedBy d) := by
  unfold Place.enter
  split <;> simp

/-- A last predicate is written behind the clauses that are there. -/
theorem behind_endInField (c d : Clauses) (field : String) (rest : List String) :
    (endInField d field rest).behind c = endInField (c.followedBy d) field rest := by
  simp [endInField, Outcome.behind]

/-- An order entry is written behind the clauses that are there. -/
theorem behind_endInOrder (c d : Clauses) (field : String) (rest : List String) :
    (endInOrder d field rest).behind c = endInOrder (c.followedBy d) field rest := by
  simp [endInOrder, Outcome.behind]

/-- Clauses that are there already stay before what a reading leaves, and change nothing else. -/
theorem Reads.behind {p : Place} {ws : List String} {d : Clauses} {o : Outcome} (h : Reads p ws d o)
    (c : Clauses) : Reads p ws (c.followedBy d) (o.behind c) := by
  induction h with
  | ends free =>
    rw [Outcome.behind_done, followedBy_enter]
    exact .ends free
  | keyword free _ ih =>
    rw [followedBy_enter] at ih
    exact .keyword free ih
  | column field _ ih =>
    rw [Clauses.followedBy_addColumn] at ih
    exact .column field ih
  | predicate field _ ih =>
    rw [Clauses.followedBy_addPredicate] at ih
    exact .predicate field ih
  | lastPredicate field =>
    rw [behind_endInField]
    exact .lastPredicate field
  | unknown needs field =>
    rw [Outcome.behind_failed, followedBy_enter]
    exact .unknown needs field
  | orderKeyword _ ih => exact .orderKeyword ih
  | orderField field =>
    rw [behind_endInOrder]
    exact .orderField field
  | malformed short => exact .malformed short

/-- **A reading never looks at the clauses it adds to.** -/
theorem read_followedBy (p : Place) (ws : List String) (c d : Clauses) :
    read p ws (c.followedBy d) = (read p ws d).behind c :=
  ((reads_read p ws d).behind c).read_eq

/-! ## What a reading writes -/

/-- The outcome is the one that a reading has from nothing, added to clauses: the three lists of the clauses go
on, the limit is written if the rule of `one` was entered, and the offset is not. -/
structure Outcome.AddsTo (o : Outcome) (c : Clauses) (alone : Outcome) : Prop where
  failure : o.failure = alone.failure
  steps : o.steps = alone.steps
  select : o.clauses.select = c.select ++ alone.clauses.select
  filters : o.clauses.filters = c.filters ++ alone.clauses.filters
  order : o.clauses.order = c.order ++ alone.clauses.order
  limit : o.clauses.limit = if Keyword.one ∈ alone.entries.map Prod.fst then some 1 else c.limit
  offset : o.clauses.offset = c.offset

/-- A reading leaves the limit one if the rule of `one` was entered, and otherwise the limit that it found. -/
theorem Reads.limit {p : Place} {ws : List String} {c : Clauses} {o : Outcome} (h : Reads p ws c o) :
    o.clauses.limit = if Keyword.one ∈ o.entries.map Prod.fst then some 1 else (p.enter c).limit := by
  induction h with
  | ends | unknown | malformed => rfl
  | keyword _ _ ih | orderKeyword _ ih =>
    rw [Outcome.after_clauses, ih, enter_limit, Outcome.entries_after_rule, List.map_cons]
    simp only [List.mem_cons, eq_comm, Place.enter]
  | column _ _ ih | predicate _ _ ih => exact ih
  | lastPredicate =>
    rw [entries_endInField]
    rfl
  | orderField =>
    rw [entries_endInOrder]
    rfl

/-- A reading leaves the offset that it found. -/
theorem Reads.offset {p : Place} {ws : List String} {c : Clauses} {o : Outcome} (h : Reads p ws c o) :
    o.clauses.offset = c.offset := by
  induction h with
  | ends | unknown => exact enter_offset _ _
  | keyword _ _ ih => rw [Outcome.after_clauses, ih, enter_offset]
  | column _ _ ih | predicate _ _ ih | orderKeyword _ ih => exact ih
  | lastPredicate | orderField | malformed => rfl

/-- The reading of the words after a keyword is the reading of all of them. -/
theorem readAfter_eq_readWords (k : Keyword) (ws : List String) (c : Clauses) :
    readAfter k ws c = readWords (k.word :: ws) c :=
  (@read_keyword .columns nofun k ws c).symm

/-- **A reading only adds, and never reads what is there.** From any clauses, words and the words after a keyword
are read as from none, with the same steps and the same failure; and what is left behind, also by a reading that
fails, is what was there with the new columns, predicates and order entries behind it, with the limit one if the
rule of `one` was entered, and with its offset. -/
theorem readings_only_add (c : Clauses) :
    (∀ ws, (readWords ws c).AddsTo c (readWords ws {})) ∧
      ∀ k ws, (readAfter k ws c).AddsTo c (readAfter k ws {}) := by
  have adds : ∀ ws, (readWords ws c).AddsTo c (readWords ws {}) := by
    intro ws
    have behind : readWords ws c = (readWords ws {}).behind c := by
      have moved := read_followedBy .columns ws c {}
      rwa [Clauses.followedBy_empty] at moved
    have reads : Reads .columns ws c (readWords ws c) := reads_read .columns ws c
    have limit := reads.limit
    have offset := reads.offset
    rw [behind] at limit offset ⊢
    exact {
      failure := rfl
      steps := rfl
      select := rfl
      filters := rfl
      order := rfl
      limit := limit
      offset := offset }
  refine ⟨adds, fun k ws => ?_⟩
  rw [readAfter_eq_readWords, readAfter_eq_readWords]
  exact adds _

/-- A reading that fails keeps what it has written. -/
example : readWords ["all", "name"] { select := ["id"], limit := some 5, offset := some 7 } =
    { clauses := { select := ["id", "*"], limit := some 5, offset := some 7 },
      steps := [.rule .all ["name"]], failure := some (.unknownContinuation "name") } := by
  decide

/-! ## One and all -/

/-- The rule of `one` is the rule of `all` with a limit before it. -/
theorem read_one_eq_read_all (ws : List String) (c : Clauses) :
    read (.under .one) ws c = read (.under .all) ws c.limitToOne := by
  cases ws with
  | nil => rfl
  | cons w ws =>
    simp only [read]
    cases Keyword.ofWord? w with
    | none => rfl
    | some k => rfl

end NameQuery.Name
