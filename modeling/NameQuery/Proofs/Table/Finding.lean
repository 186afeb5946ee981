import NameQuery.Proofs.Table.Arrangement
import NameQuery.Proofs.Table.Record
import NameQuery.Proofs.Table.Store

/-!
# What a query finds

A query whose values are counted right finds, in a table that exists, a window of the arranged matching
rows, each with the columns that it asks for (`Store.find_window`). A row matches if each of its filter
fields is there and agrees with the value bound to it (`Query.Matches`). Going through a table by
pages of the same limit, one after the other, passes each of its records once and in order
(`Store.exists_pages`).
-/

set_option autoImplicit false

namespace NameQuery

/-! ## Matching rows -/

/-- Each filter field of a row is there, and its value agrees with the value bound at the same place. -/
def Query.Matches (q : Query) (row : Record) : Prop :=
  ∀ (i : Nat) (field : String) (value : Value), q.filterFields[i]? = some field →
    q.values[i]? = some value → ∃ stored, row.get? field = some stored ∧ value.agrees stored = true

/-- A row is kept exactly if it matches the query. -/
theorem Store.agreesOn_eq_true_iff {q : Query} {row : Record} :
    agreesOn q.filterFields q.values row = true ↔ q.Matches row := by
  have bound : ∀ field value, (field, value) ∈ q.filterFields.zip q.values ↔
      ∃ i : Nat, q.filterFields[i]? = some field ∧ q.values[i]? = some value := by
    intro field value
    rw [List.mem_iff_getElem?]
    exact exists_congr fun i => List.getElem?_zip_eq_some
  rw [agreesOn, List.all_eq_true]
  constructor
  · intro all i field value hf hv
    exact (Option.any_eq_true _ _).mp (all (field, value) ((bound field value).mpr ⟨i, hf, hv⟩))
  · rintro all ⟨field, value⟩ pair
    obtain ⟨i, hf, hv⟩ := (bound field value).mp pair
    exact (Option.any_eq_true _ _).mpr (all i field value hf hv)

instance (q : Query) : DecidablePred q.Matches :=
  fun _ => decidable_of_iff _ Store.agreesOn_eq_true_iff

theorem Store.filter_agreesOn (q : Query) (rows : List Record) :
    rows.filter (agreesOn q.filterFields q.values) = rows.filter q.Matches := by
  apply List.filter_congr
  intro row _
  rw [Bool.eq_iff_iff, decide_eq_true_iff]
  exact agreesOn_eq_true_iff

/-! ## Shown columns -/

/-- What is shown of a row: its values in the given columns and no others, null where it has none, or
the whole row if no columns are given. -/
def Shows (columns : List String) (row shown : Record) : Prop :=
  if columns = [] then shown = row
  else ∀ name, shown.get? name = if name ∈ columns then some ((row.get? name).getD .null) else none

/-- A projection shows the columns of its row. -/
theorem shows_project (columns : List String) (row : Record) :
    Shows columns row (row.project columns) := by
  unfold Shows Record.project
  by_cases whole : columns = []
  · simp [whole]
  have given : columns.isEmpty = false := by simpa using whole
  rw [if_neg whole, given, if_neg Bool.false_ne_true]
  intro name
  rw [Record.get?_ofList, ← List.map_reverse]
  by_cases column : name ∈ columns
  · rw [if_pos column]
    exact List.lookup_graph _ (List.mem_reverse.mpr column)
  · rw [if_neg column, List.lookup_eq_none_iff]
    intro field hf
    obtain ⟨c, hc, rfl⟩ := List.mem_map.mp hf
    exact bne_iff_ne.mpr fun same => column (same ▸ List.mem_reverse.mp hc)

/-! ## Windows -/

/-- The places of a list that are shown for a limit and an offset, zero being no limit. -/
def window {α : Type} (limit offset : Nat) (rows : List α) : List α :=
  if limit = 0 then rows.drop offset else (rows.drop offset).take limit

/-- What a query finds among the rows of a table: a window of the arranged matching rows with the
columns of the query. It is a list unless the limit is one. -/
structure Query.Finds (q : Query) (rows : List Record) (found : Found) : Prop where
  records : ∃ arranged : Arrangement q.orderFields (rows.filter q.Matches),
    List.Forall₂ (Shows q.columns) (window q.limit.toNat q.offset.toNat arranged.toList) found.records
  isMany : (∃ records, found = .many records) ↔ q.limit ≠ 1

/-- An answer has the records that it is made of, where it has room for them. -/
theorem Found.records_ofRows {one : Bool} {rows : List Record} (room : one = true → rows.length ≤ 1) :
    (ofRows one rows).records = rows := by
  cases one with
  | false => rfl
  | true =>
    cases rows with
    | nil => rfl
    | cons row rows =>
      have last : rows = [] := by simpa using room rfl
      rw [last]
      rfl

/-- Many records are found exactly where not one is asked for. -/
theorem Found.ofRows_eq_many_iff {one : Bool} {rows : List Record} :
    (∃ records, ofRows one rows = .many records) ↔ one = false := by
  cases one with
  | false => exact ⟨fun _ => rfl, fun _ => ⟨rows, rfl⟩⟩
  | true => cases rows <;> exact ⟨fun ⟨_, h⟩ => (nomatch h), nofun⟩

/-- The page of a query is the window of its limit and offset. -/
theorem Query.page_eq_window {α : Type} (q : Query) (rows : List α) :
    q.page rows = window q.limit.toNat q.offset.toNat rows := by
  have none : q.limit = 0 ↔ q.limit.toNat = 0 := by rw [← UInt64.toNat_inj]; rfl
  simp only [page, window, none]

/-- Where one row is asked for, a window has room for no other. -/
theorem Query.length_page_le {α : Type} {q : Query} (one : q.wantsOne = true) (rows : List α) :
    (q.page rows).length ≤ 1 := by
  have limit : q.limit = 1 := beq_iff_eq.mp one
  rw [page, limit, if_neg (by decide), List.length_take]
  exact Nat.min_le_left _ _

namespace Store

/-- What a query selects is the window of its sorted matches, projected. -/
theorem select_eq_map (q : Query) (rows : List Record) :
    select q rows =
      (window q.limit.toNat q.offset.toNat
        (Arrangement.sorted q.orderFields (rows.filter q.Matches)).toList).map (Record.project q.columns) := by
  rw [select, filter_agreesOn, Query.page_eq_window, Arrangement.toList_sorted]

/-- The records of what is found are the selected ones, also where one is asked for. -/
theorem records_select (q : Query) (rows : List Record) :
    (Found.ofRows q.wantsOne (select q rows)).records = select q rows := by
  apply Found.records_ofRows
  intro one
  rw [select, List.length_map]
  exact Query.length_page_le one _

/-- What is selected is what the query finds. -/
theorem finds_select (q : Query) (rows : List Record) :
    q.Finds rows (.ofRows q.wantsOne (select q rows)) where
  records := by
    refine ⟨Arrangement.sorted _ _, ?_⟩
    rw [records_select, select_eq_map, List.forall₂_map_right_iff]
    exact List.forall₂_same.mpr fun row _ => shows_project _ row
  isMany := by
    rw [Found.ofRows_eq_many_iff, Query.wantsOne, beq_eq_false_iff_ne]

/-- A query with as many values as it counts finds what it selects of the table. -/
theorem find_of_counted {s : Store} {table : String} {q : Query} {rows : List Record}
    (counted : q.placeholderCount = q.values.length) (stored : s.rows? table = some rows) :
    s.find table q = .ok (.ofRows q.wantsOne (select q rows)) :=
  find_eq_ok_iff.mpr ⟨if_pos counted, rows, stored, rfl⟩

end Store

/-! ## Pages -/

/-- One of the pages of a query, all of which have the same limit. -/
def Query.pageAt (q : Query) (limit : UInt64) (i : Nat) : Query :=
  { q with limit := limit, offset := .ofNat (i * limit.toNat) }

def Query.unlimited (q : Query) : Query := { q with limit := 0, offset := 0 }

/-- Without a limit and an offset, the page is everything. -/
theorem Query.page_unlimited {α : Type} (q : Query) (rows : List α) : q.unlimited.page rows = rows := by
  have unlimited : q.unlimited.limit = 0 := rfl
  rw [page]
  exact if_pos unlimited

/-- The page of a number is the next rows, up to the limit, behind the pages before it. -/
theorem Query.page_pageAt {α : Type} {q : Query} {limit : UInt64} (limited : limit ≠ 0) {i : Nat}
    (fits : i * limit.toNat < 2 ^ 64) (rows : List α) :
    (q.pageAt limit i).page rows = (rows.drop (i * limit.toNat)).take limit.toNat := by
  have offset : (q.pageAt limit i).offset.toNat = i * limit.toNat := UInt64.toNat_ofNat_of_lt fits
  rw [page, offset]
  exact if_neg limited

/-- Windows that follow each other are one window. -/
theorem flatMap_window {α : Type} (limit : Nat) (rows : List α) (n : Nat) :
    (List.range n).flatMap (fun i => (rows.drop (i * limit)).take limit) = rows.take (n * limit) := by
  induction n with
  | zero => rw [List.range_zero, List.flatMap_nil, Nat.zero_mul, List.take_zero]
  | succ n ih =>
    rw [List.range_succ, List.flatMap_append, ih, List.flatMap_singleton, ← List.take_add,
      Nat.succ_mul]

namespace Store

/-- The first pages of a table, in the order of their offsets. -/
structure ArePages (s : Store) (table : String) (q : Query) (limit : UInt64) (pages : List Found) :
    Prop where
  offsets : ∀ i < pages.length, i * limit.toNat < 2 ^ 64
  found : List.Forall₂ (fun i page => s.find table (q.pageAt limit i) = .ok page)
    (List.range pages.length) pages

variable {s : Store} {table : String} {q : Query} {rows : List Record} {limit : UInt64}

/-- Without a limit and an offset, a query finds everything that it selects. -/
theorem find_unlimited (counted : q.placeholderCount = q.values.length)
    (stored : s.rows? table = some rows) :
    s.find table q.unlimited = .ok (.many (select q.unlimited rows)) :=
  @find_of_counted s table q.unlimited rows counted stored

/-- A page has the records of its window. -/
theorem select_pageAt (limited : limit ≠ 0) {i : Nat} (fits : i * limit.toNat < 2 ^ 64) :
    select (q.pageAt limit i) rows =
      ((select q.unlimited rows).drop (i * limit.toNat)).take limit.toNat := by
  rw [select, select, Query.page_pageAt limited fits, Query.page_unlimited, List.map_take, List.map_drop]
  rfl

/-- Pages that follow each other are found and have the first records of the table. -/
theorem exists_pages (counted : q.placeholderCount = q.values.length)
    (stored : s.rows? table = some rows) (limited : limit ≠ 0) {n : Nat}
    (offsets : ∀ i < n, i * limit.toNat < 2 ^ 64) :
    ∃ pages, pages.length = n ∧ s.ArePages table q limit pages ∧
      pages.flatMap Found.records = (select q.unlimited rows).take (n * limit.toNat) := by
  let page (i : Nat) : Found :=
    .ofRows (q.pageAt limit i).wantsOne (select (q.pageAt limit i) rows)
  have length : ((List.range n).map page).length = n := by rw [List.length_map, List.length_range]
  refine ⟨(List.range n).map page, length, ⟨length.symm ▸ offsets, ?_⟩, ?_⟩
  · rw [length, List.forall₂_map_right_iff]
    exact List.forall₂_same.mpr fun i _ => @find_of_counted s table (q.pageAt limit i) rows counted stored
  · rw [List.flatMap_map, ← flatMap_window]
    apply List.flatMap_congr
    intro i hi
    rw [records_select, select_pageAt limited (offsets i (List.mem_range.mp hi))]

/-- Some number of pages goes through all records, as long as these can be counted. -/
theorem exists_enough_pages (limited : limit ≠ 0) {length : Nat} (countable : length ≤ 2 ^ 64) :
    ∃ n, length ≤ n * limit.toNat ∧ ∀ i < n, i * limit.toNat < 2 ^ 64 := by
  have positive : 0 < limit.toNat := Nat.pos_of_ne_zero fun h => limited (UInt64.toNat_inj.mp h)
  refine ⟨length ⌈/⌉ limit.toNat, ?_, fun i hi => ?_⟩
  · rw [Nat.mul_comm]
    exact le_smul_ceilDiv positive
  · by_contra large
    have enough : length ≤ limit.toNat • i := by
      rw [smul_eq_mul, Nat.mul_comm]
      omega
    exact absurd ((ceilDiv_le_iff_le_smul positive).mpr enough) (Nat.not_le.mpr hi)

/-- **What a store finds.** A query whose values are not as many as its predicates is refused for that,
one about a table that does not exist for the table. Any other finds a window of the arranged matching
rows, and its pages, one after the other, have the records that it finds without a limit. -/
theorem find_window (s : Store) (table : String) (q : Query) :
    (q.placeholderCount ≠ q.values.length →
      s.find table q = .error (.bindMismatch q.placeholderCount q.values.length)) ∧
    (q.placeholderCount = q.values.length → s.rows? table = none →
      s.find table q = .error (.execution s!"no such table: {table}")) ∧
    (q.placeholderCount = q.values.length → ∀ rows, s.rows? table = some rows →
      (∃ found, s.find table q = .ok found ∧ q.Finds rows found) ∧
      ∃ every, s.find table q.unlimited = .ok (.many every) ∧ ∀ limit ≠ 0,
        (∀ n, (∀ i < n, i * limit.toNat < 2 ^ 64) →
          ∃ pages, pages.length = n ∧ s.ArePages table q limit pages ∧
            pages.flatMap Found.records = every.take (n * limit.toNat)) ∧
        (every.length ≤ 2 ^ 64 → ∃ pages, s.ArePages table q limit pages ∧
          pages.flatMap Found.records = every)) := by
  refine ⟨fun other => ?_, fun counted absent => ?_, fun counted rows stored => ?_⟩
  · rw [find, Query.checkBindings, if_neg other]
    rfl
  · rw [find, Query.checkBindings, if_pos counted, absent]
    rfl
  refine ⟨⟨_, find_of_counted counted stored, finds_select q rows⟩, _, find_unlimited counted stored,
    fun limit limited => ⟨fun n offsets => exists_pages counted stored limited offsets, fun countable => ?_⟩⟩
  obtain ⟨n, enough, offsets⟩ := exists_enough_pages limited countable
  obtain ⟨pages, -, are, records⟩ := exists_pages counted stored limited offsets
  exact ⟨pages, are, records.trans (List.take_of_length_le enough)⟩

end Store

end NameQuery
