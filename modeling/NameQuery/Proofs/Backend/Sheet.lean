import NameQuery.Proofs.Backend.Values
import NameQuery.Proofs.Sql.Gate
import NameQuery.Proofs.Table.Record
import NameQuery.Proofs.Table.Store
import NameQuery.Sql.Answer

/-!
# One sheet in a store and in a database

Rows of values under columns (`Sheet`) make records of a store and rows of a database table. A column
of the sheet finds the same value in both (`Sheet.exists_value`), so predicates keep the same rows
(`Sheet.agreesOn_eq_keeps`) and orders sort them alike (`Sheet.rowOrder_eq`): what a query selects of
the one and what its statement answers of the other come from the same rows of the sheet, in the same
order (`Sheet.chosen`).
-/

set_option autoImplicit false

namespace NameQuery

open Sql (Cell Column Row Table)

/-- Rows of values under columns with distinct names. -/
structure Sheet where
  columns : List Column
  rows : List (List Value)
  identifiers : ∀ c ∈ columns, isIdentifier c.name = true
  words : ∀ c ∈ columns, Sql.isPlainWord c.name = true
  distinct : (columns.map Column.name).Nodup
  holds : ∀ row ∈ rows, List.Forall₂ Column.Holds columns row

namespace Sheet

variable (s : Sheet)

def record (row : List Value) : Record :=
  Record.ofList ((s.columns.zip row).map fun (c, v) => (c.name, v.toJson))

def cells (row : List Value) : Row := (s.columns.zip row).map fun (c, v) => (c, .ofValue v)

/-- The table into which the rows were inserted one after the other. -/
def table (name : String) : Table :=
  s.rows.foldl (fun t row => t.insert (row.map Cell.ofValue)) (.ofColumns name s.columns)

/-- Columns store the values that they hold as they are. -/
theorem map_store_eq {columns : List Column} {row : List Value}
    (holds : List.Forall₂ Column.Holds columns row) :
    ((columns.zip (row.map Cell.ofValue)).map fun (c, v) => (c, c.affinity.store v)) =
      (columns.zip row).map fun (c, v) => (c, .ofValue v) := by
  induction holds with
  | nil => rfl
  | cons h _ ih => simp only [List.map_cons, List.zip_cons_cons, ih, h.store]

/-- The values are in the table as they are. -/
theorem table_eq (name : String) : s.table name = ⟨name, s.columns, s.rows.map s.cells⟩ := by
  suffices h : ∀ (rows : List (List Value)) (before : List Row),
      (∀ row ∈ rows, List.Forall₂ Column.Holds s.columns row) →
        rows.foldl (fun t row => t.insert (row.map Cell.ofValue)) (⟨name, s.columns, before⟩ : Table) =
          ⟨name, s.columns, before ++ rows.map s.cells⟩ from
    h s.rows [] s.holds
  intro rows
  induction rows with
  | nil => simp
  | cons row rows ih =>
    intro before holds
    rw [List.forall_mem_cons] at holds
    rw [List.foldl_cons, Table.insert, ih _ holds.2, map_store_eq holds.1, List.map_cons, List.append_assoc]
    rfl

/-! ## The value of a column -/

variable {s} {c : Column} {row : List Value}

/-- Names of identifiers are the same only if they are equal. -/
theorem eq_of_sameName {a b : String} (ha : isIdentifier a = true) (hb : isIdentifier b = true)
    (h : Sql.sameName a b = true) : a = b := by
  have small : ∀ {t : String}, isIdentifier t = true → t.map Char.toLower = t := by
    intro t ht
    refine String.toList_inj.mp ?_
    rw [String.toList_map]
    refine (List.map_congr_left fun c hc => ?_).trans (List.map_id _)
    exact Char.toLower_eq_of_not_isUpper (by simp [isUpper_of_isIdentifier ht hc])
  rw [Sql.sameName, beq_iff_eq, small ha, small hb] at h
  exact h

/-- The cells of a row are under the columns of the sheet. -/
theorem map_fst_zip (hrow : List.Forall₂ Column.Holds s.columns row) :
    (s.columns.zip row).map Prod.fst = s.columns :=
  List.map_fst_zip (Nat.le_of_eq hrow.length_eq)

/-- A value stands under each column. -/
theorem exists_mem_zip (hc : c ∈ s.columns) (hrow : List.Forall₂ Column.Holds s.columns row) :
    ∃ v, c.Holds v ∧ (c, v) ∈ s.columns.zip row := by
  have column : c ∈ (s.columns.zip row).map Prod.fst := (map_fst_zip hrow).symm ▸ hc
  obtain ⟨⟨_, v⟩, mem, rfl⟩ := List.mem_map.mp column
  exact ⟨v, (List.forall₂_iff_zip.mp hrow).2 mem, mem⟩

/-- In every row a column has one value, in the record and in the table. -/
theorem exists_value (hc : c ∈ s.columns) (hrow : List.Forall₂ Column.Holds s.columns row) :
    ∃ v, c.Holds v ∧ (s.record row).get? c.name = some v.toJson ∧
      (s.cells row).column? c.name = some (c, .ofValue v) := by
  obtain ⟨v, hv, mem⟩ := exists_mem_zip hc hrow
  have once : (((s.columns.zip row).map Prod.fst).map Column.name).Nodup := by
    rw [map_fst_zip hrow]
    exact s.distinct
  refine ⟨v, hv, Record.get?_ofList_of_mem ?_ (List.mem_map.mpr ⟨_, mem, rfl⟩), ?_⟩
  · rw [List.map_map] at once ⊢
    exact once
  · obtain ⟨before, behind, split⟩ := List.append_of_mem mem
    have first : c.name ∉ (before.map Prod.fst).map Column.name := by
      rw [split, List.map_append, List.map_append, List.nodup_append] at once
      exact fun again => once.2.2 _ again _ List.mem_cons_self rfl
    have cut : s.cells row = (before.map fun (c, v) => (c, Cell.ofValue v)) ++
        (c, .ofValue v) :: behind.map fun (c, v) => (c, Cell.ofValue v) := by
      rw [cells, split, List.map_append]
      rfl
    rw [Row.column?, List.find?_eq_some_iff_append]
    refine ⟨beq_self_eq_true _, _, _, cut, fun a ha => ?_⟩
    obtain ⟨⟨d, w⟩, hd, rfl⟩ := List.mem_map.mp ha
    have column : d ∈ s.columns := by
      have entry : (d, w) ∈ s.columns.zip row := split ▸ List.mem_append_left _ hd
      exact (List.of_mem_zip entry).1
    rw [Bool.not_eq_true', Bool.eq_false_iff]
    intro same
    have names := eq_of_sameName (s.identifiers d column) (s.identifiers c hc) same
    have member : d.name ∈ (before.map Prod.fst).map Column.name :=
      List.mem_map_of_mem (List.mem_map_of_mem hd)
    exact first (names ▸ member)

/-! ## Predicates -/

/-- The predicates of a query, each with one placeholder. -/
def predicates (fields : List String) : List Predicate := fields.map fun f => ⟨f, 1⟩

/-- A predicate with one placeholder is a comparison with the column's cell. -/
theorem holdsOn_single {cells : Row} {f : String} {cell bound : Cell}
    (h : cells.column? f = some (c, cell)) :
    Statement.holdsOn cells ⟨f, 1⟩ [bound] = c.affinity.equal cell bound := by
  simp only [Statement.holdsOn, h, List.foldl_nil]

/-- A row agrees with values as a record exactly if it is kept under them in the table. -/
theorem agreesOn_eq_keeps (hrow : List.Forall₂ Column.Holds s.columns row) {fields : List String}
    {values : List Value} (length : fields.length = values.length)
    (typed : ∀ p ∈ fields.zip values, ∃ c ∈ s.columns, c.name = p.1 ∧ c.Binds p.2) :
    Store.agreesOn fields values (s.record row) =
      Statement.keeps (s.cells row) (predicates fields) (values.map Cell.ofValue) := by
  induction fields generalizing values with
  | nil => rfl
  | cons f fields ih =>
    cases values with
    | nil => cases length
    | cons b values =>
      rw [List.zip_cons_cons, List.forall_mem_cons] at typed
      obtain ⟨⟨c, hc, rfl, binds⟩, typed⟩ := typed
      obtain ⟨v, hv, field, column⟩ := exists_value hc hrow
      have kept : Statement.keeps (s.cells row) (predicates (c.name :: fields))
          ((b :: values).map Cell.ofValue) =
        (decide (Statement.holdsOn (s.cells row) ⟨c.name, 1⟩ [.ofValue b] = some true) &&
          Statement.keeps (s.cells row) (predicates fields) (values.map Cell.ofValue)) := rfl
      have agreed : Store.agreesOn (c.name :: fields) (b :: values) (s.record row) =
        (((s.record row).get? c.name).any b.agrees && Store.agreesOn fields values (s.record row)) := rfl
      have here : b.agrees v.toJson =
          decide (c.affinity.equal (.ofValue v) (.ofValue b) = some true) := by
        rw [Bool.eq_iff_iff, decide_eq_true_iff]
        exact hv.agrees_iff binds
      rw [kept, agreed, field, Option.any_some, here, holdsOn_single column,
        ih (Nat.succ.inj length) typed]

/-! ## Orders -/

/-- Two rows are in the same order as records and in the table. -/
theorem rowOrder_eq {a b : List Value} (ha : List.Forall₂ Column.Holds s.columns a)
    (hb : List.Forall₂ Column.Holds s.columns b) {entries : List (String × Option Direction)}
    (fields : ∀ e ∈ entries, ∃ c ∈ s.columns, c.name = e.1) :
    Record.rowOrder entries (s.record a) (s.record b) =
      Statement.rowOrder entries (s.cells a) (s.cells b) := by
  induction entries with
  | nil => rfl
  | cons e entries ih =>
    obtain ⟨field, direction⟩ := e
    rw [List.forall_mem_cons] at fields
    obtain ⟨⟨c, hc, rfl⟩, fields⟩ := fields
    obtain ⟨v, hv, fieldA, columnA⟩ := exists_value hc ha
    obtain ⟨w, hw, fieldB, columnB⟩ := exists_value hc hb
    rw [Record.rowOrder, Statement.rowOrder, fieldA, fieldB, hv.order hw, Row.cell, Row.cell, columnA,
      columnB, ih fields]
    rfl

/-! ## Rows -/

/-- The rows that a query chooses, in its order. -/
def chosen (s : Sheet) (q : Query) : List (List Value) :=
  q.page ((s.rows.filter fun row => Store.agreesOn q.filterFields q.values (s.record row)).mergeSort
    fun a b => (Record.rowOrder q.orderFields (s.record a) (s.record b)).isLE)

/-- The rows that a query chooses are rows of the sheet. -/
theorem mem_rows_of_mem_chosen {q : Query} (h : row ∈ s.chosen q) : row ∈ s.rows :=
  List.mem_of_mem_filter (List.mem_mergeSort.mp (Query.mem_of_mem_page h))

/-- What a query selects of the records. -/
theorem select_records (s : Sheet) (q : Query) :
    Store.select q (s.rows.map s.record) =
      (s.chosen q).map fun row => Record.project q.columns (s.record row) := by
  have sorted : ∀ rows : List (List Value),
      (rows.mergeSort fun a b => (Record.rowOrder q.orderFields (s.record a) (s.record b)).isLE).map
        s.record = Store.ordered q.orderFields (rows.map s.record) :=
    fun rows => List.map_mergeSort fun _ _ _ _ => rfl
  rw [Store.select, List.filter_map, ← sorted, ← Query.map_page, List.map_map]
  rfl

/-- The rows of a statement are sorted by its entries. Without entries they stay as they are. -/
theorem rows_eq {q : Query} {st : Statement} (limit : st.limit = q.limit) (offset : st.offset = q.offset)
    (values : List Cell) (all : List Row) :
    st.rows values all =
      (q.page ((all.filter fun row => Statement.keeps row st.predicates values).mergeSort
        fun a b => (Statement.rowOrder (st.order.getD []) a b).isLE)).map
          (Statement.selected st.columns) := by
  rw [Statement.rows, limit, offset]
  cases st.order with
  | none =>
    have unsorted : ∀ kept : List Row,
        (kept.mergeSort fun a b => (Statement.rowOrder [] a b).isLE) = kept :=
      fun kept => List.mergeSort_of_pairwise (List.pairwise_of_forall fun _ _ => rfl)
    rw [Option.getD_none, unsorted]
    rfl
  | some entries => rfl

/-- What the statement of a query answers of the table, if the query can be asked of the sheet: it
compares columns with values of their types and orders by columns. -/
theorem rows_cells {q : Query} {st : Statement}
    (length : q.filterFields.length = q.values.length)
    (typed : ∀ p ∈ q.filterFields.zip q.values, ∃ c ∈ s.columns, c.name = p.1 ∧ c.Binds p.2)
    (columns : ∀ e ∈ q.orderFields, ∃ c ∈ s.columns, c.name = e.1)
    (filter : st.predicates = predicates q.filterFields) (order : st.order.getD [] = q.orderFields)
    (limit : st.limit = q.limit) (offset : st.offset = q.offset) :
    st.rows (q.values.map Cell.ofValue) (s.rows.map s.cells) =
      (s.chosen q).map fun row => Statement.selected st.columns (s.cells row) := by
  have kept : (s.rows.map s.cells).filter
      (fun row => Statement.keeps row st.predicates (q.values.map Cell.ofValue)) =
        (s.rows.filter fun row => Store.agreesOn q.filterFields q.values (s.record row)).map s.cells := by
    rw [List.filter_map, filter]
    refine congrArg (List.map s.cells) (List.filter_congr fun row hrow => ?_)
    exact (agreesOn_eq_keeps (s.holds row hrow) length typed).symm
  have sorted : ∀ rows : List (List Value), (∀ row ∈ rows, row ∈ s.rows) →
      (rows.mergeSort fun a b => (Record.rowOrder q.orderFields (s.record a) (s.record b)).isLE).map
        s.cells = (rows.map s.cells).mergeSort fun a b => (Statement.rowOrder q.orderFields a b).isLE :=
    fun rows inside => List.map_mergeSort fun a ha b hb => by
      rw [rowOrder_eq (s.holds a (inside a ha)) (s.holds b (inside b hb)) columns]
  rw [rows_eq limit offset, kept, order, ← sorted _ fun row h => List.mem_of_mem_filter h,
    ← Query.map_page, List.map_map]
  rfl

/-! ## Records that are read back -/

/-- A traversal that succeeds at each member is a map. -/
theorem mapM_eq_ok {α β ε : Type} {f : α → Except ε β} {g : α → β} {l : List α}
    (h : ∀ x ∈ l, f x = .ok (g x)) : l.mapM f = .ok (l.map g) := by
  induction l with
  | nil => rfl
  | cons x l ih =>
    rw [List.forall_mem_cons] at h
    rw [List.mapM_cons, h.1, ih h.2]
    rfl

/-- Values under columns that hold them are read back, but for the numbers that are cut. -/
theorem mapM_read_eq {pairs : List (Column × Value)} (h : ∀ p ∈ pairs, p.1.Holds p.2) :
    (pairs.map fun (c, v) => (c, Cell.ofValue v)).mapM
      (fun (c, cell) => do return (c.name, ← c.type.read c.name cell) :
        Column × Cell → Except Failure (String × Json)) =
      .ok (pairs.map fun (c, v) => (c.name, v.toJson.narrowed)) := by
  rw [List.mapM_map]
  refine mapM_eq_ok fun p hp => ?_
  show (do return (p.1.name, ← p.1.type.read p.1.name (.ofValue p.2)) : Except _ _) = _
  rw [(h p hp).read]
  rfl

/-- Values under columns that hold them are read back as a record. -/
theorem record_map {pairs : List (Column × Value)} (h : ∀ p ∈ pairs, p.1.Holds p.2) :
    Row.record (pairs.map fun (c, v) => (c, .ofValue v)) =
      .ok ((Record.ofList (pairs.map fun (c, v) => (c.name, v.toJson))).mapValues Json.narrowed) := by
  rw [Row.record, mapM_read_eq h, Record.mapValues_ofList, List.map_map]
  rfl

/-- Each star selects all cells of the row once more. -/
theorem selected_stars (cells : Row) (n : Nat) :
    Statement.selected (List.replicate n "*") cells = (List.replicate n cells).flatten := by
  induction n with
  | zero => rfl
  | succ n ih =>
    rw [List.replicate_succ, List.replicate_succ, List.flatten_cons, ← ih]
    rfl

/-- Stars read the whole row back, however many they are. -/
theorem record_stars (hrow : List.Forall₂ Column.Holds s.columns row) (n : Nat) :
    Row.record (Statement.selected (List.replicate (n + 1) "*") (s.cells row)) =
      .ok ((s.record row).mapValues Json.narrowed) := by
  have holds : ∀ p ∈ (List.replicate (n + 1) (s.columns.zip row)).flatten, p.1.Holds p.2 := by
    intro p hp
    obtain ⟨l, hl, hp⟩ := List.mem_flatten.mp hp
    rw [List.eq_of_mem_replicate hl] at hp
    exact (List.forall₂_iff_zip.mp hrow).2 hp
  have stars : Statement.selected (List.replicate (n + 1) "*") (s.cells row) =
      (List.replicate (n + 1) (s.columns.zip row)).flatten.map fun (c, v) => (c, .ofValue v) := by
    rw [selected_stars, List.map_flatten, List.map_replicate]
    rfl
  rw [stars, record_map holds, List.map_flatten, List.map_replicate, Record.ofList_flatten_replicate]
  rfl

/-- Columns read their values back. -/
theorem record_columns (hrow : List.Forall₂ Column.Holds s.columns row) {names : List String}
    (ne : names ≠ []) (columns : ∀ f ∈ names, ∃ c ∈ s.columns, c.name = f) :
    Row.record (Statement.selected names (s.cells row)) =
      .ok ((Record.project names (s.record row)).mapValues Json.narrowed) := by
  have pairs : ∀ names : List String, (∀ f ∈ names, ∃ c ∈ s.columns, c.name = f) →
      ∃ pairs : List (Column × Value), (∀ p ∈ pairs, p.1.Holds p.2) ∧
        Statement.selected names (s.cells row) = (pairs.map fun (c, v) => (c, .ofValue v)) ∧
        (names.map fun f => (f, ((s.record row).get? f).getD .null)) =
          pairs.map fun (c, v) => (c.name, v.toJson) := by
    intro names
    induction names with
    | nil => exact fun _ => ⟨[], List.forall_mem_nil _, rfl, rfl⟩
    | cons f names ih =>
      intro columns
      rw [List.forall_mem_cons] at columns
      obtain ⟨⟨c, hc, rfl⟩, columns⟩ := columns
      obtain ⟨pairs, holds, cells, fields⟩ := ih columns
      obtain ⟨v, hv, field, column⟩ := exists_value hc hrow
      refine ⟨(c, v) :: pairs, List.forall_mem_cons.mpr ⟨hv, holds⟩, ?_, ?_⟩
      · have name : c.name ≠ "*" := by
          intro star
          have identifier := s.identifiers c hc
          rw [star] at identifier
          cases identifier
        have first : Statement.selected (c.name :: names) (s.cells row) =
            (if c.name = "*" then s.cells row else ((s.cells row).column? c.name).toList) ++
              Statement.selected names (s.cells row) := rfl
        rw [first, if_neg name, column, cells]
        rfl
      · rw [List.map_cons, List.map_cons, fields, field]
        rfl
  obtain ⟨pairs, holds, cells, fields⟩ := pairs names columns
  rw [cells, record_map holds, Record.project, if_neg (by simpa using ne), fields]

end Sheet

end NameQuery
