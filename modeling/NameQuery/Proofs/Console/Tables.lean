import NameQuery.Console.Report
import NameQuery.Proofs.Text.Bytes

/-!
# Tables that are aligned and complete

An answer in the format of a table is a header, a rule and a line for each record, then an empty line and the
number of records (`Report.found_table`). What makes these lines a table is `Report.IsTable`: the columns are all
names of all records, ascending by their bytes, and whoever cuts a line at the widths of the columns and at the
joints between them (`Report.cells?`) finds there what the record has in each column, with nothing behind it but
spaces. So all lines have the same number of characters, and no value is cut off, moved to another column or
lost, whatever characters it is made of.

The widths are counted in bytes and the padding in characters. That this fits together rests on texts having no
more characters than bytes (`Text.length_le_utf8ByteSize`), and is used at one place, `Report.length_padded`.
-/

set_option autoImplicit false

namespace NameQuery.Report

/-! ## Cutting a line -/

/-- The cells of a line, cut at the widths of the columns and at a joint between two cells; nothing where the line
has another number of characters or no joint at one of these places. -/
def cells? (joint : List Char) : List Nat → List Char → Option (List (List Char))
  | [], line => if line = [] then some [] else none
  | [width], line => if line.length = width then some [line] else none
  | width :: next :: widths, line =>
    if joint <+: line.drop width then
      (cells? joint (next :: widths) (line.drop (width + joint.length))).map (line.take width :: ·)
    else none

/-- Cells that are joined are found by cutting at their lengths. -/
theorem cells?_intercalate (joint : List Char) (cells : List (List Char)) :
    cells? joint (cells.map List.length) (joint.intercalate cells) = some cells := by
  match cells with
  | [] => rfl
  | [cell] => simp [cells?]
  | cell :: next :: cells =>
    have ih := cells?_intercalate joint (next :: cells)
    rw [List.intercalate_cons_cons, List.append_assoc, List.map_cons, List.map_cons, cells?,
      List.drop_left, if_pos (List.prefix_append _ _), ← List.drop_drop, List.drop_left, List.drop_left,
      List.take_left, ← List.map_cons, ih]
    rfl

/-- The length of joined cells is that of the cells and of a joint between any two. -/
theorem length_intercalate (joint : List Char) (cells : List (List Char)) :
    (joint.intercalate cells).length = (cells.map List.length).sum + joint.length * (cells.length - 1) := by
  match cells with
  | [] => rfl
  | [cell] => simp
  | cell :: next :: cells =>
    have ih := length_intercalate joint (next :: cells)
    rw [List.intercalate_cons_cons, List.length_append, List.length_append, ih]
    simp only [List.map_cons, List.sum_cons, List.length_cons, Nat.add_sub_cancel, Nat.mul_succ]
    omega

/-- Texts that fill the columns, joined by a joint of three characters, are cut into these texts, and make a line
of a length that the widths alone say. -/
theorem cut_and_length {joint : String} (three : joint.toList.length = 3) {columns : List String}
    {width : String → Nat} {text : String → String}
    (fill : ∀ c ∈ columns, (text c).toList.length = width c) :
    cells? joint.toList (columns.map width) (joint.intercalate (columns.map text)).toList =
        some (columns.map fun c => (text c).toList) ∧
      (joint.intercalate (columns.map text)).length = (columns.map width).sum + 3 * (columns.length - 1) := by
  have lengths : (columns.map fun c => (text c).toList).map List.length = columns.map width := by
    rw [List.map_map]
    exact List.map_congr_left fill
  have line : (joint.intercalate (columns.map text)).toList =
      joint.toList.intercalate (columns.map fun c => (text c).toList) := by
    rw [String.toList_intercalate, List.map_map]
    rfl
  constructor
  · rw [line, ← lengths, cells?_intercalate]
  · rw [← String.length_toList, line, length_intercalate, lengths, three, List.length_map]

/-! ## Lines of a table -/

/-- A line that shows texts in columns of given widths: each in its cell, with nothing behind it but spaces. -/
def ShowsCells (widths : List Nat) (line : String) (texts : List String) : Prop :=
  ∃ cells, cells? " │ ".toList widths line.toList = some cells ∧
    List.Forall₂ (fun text cell => ∃ n, cell = text.toList ++ List.replicate n ' ') texts cells

/-- What makes lines a table of records in columns of given widths, in bytes. -/
structure IsTable (records : List Record) (columns : List String) (width : String → Nat) (header rule : String)
    (rows : List String) : Prop where
  ascending : columns.Pairwise fun c d => Text.bytes c < Text.bytes d
  complete : ∀ c, c ∈ columns ↔ ∃ r ∈ records, ∃ value, r.get? c = some value
  widest : ∀ c n, width c ≤ n ↔
    c.utf8ByteSize ≤ n ∧ ∀ r ∈ records, (cellText r c).utf8ByteSize ≤ n
  aligned : ∀ line ∈ header :: rule :: rows,
    line.length = (columns.map width).sum + 3 * (columns.length - 1)
  header : ShowsCells (columns.map width) header columns
  rule : cells? "─┼─".toList (columns.map width) rule.toList =
    some (columns.map fun c => List.replicate (width c) '─')
  rows : List.Forall₂ (fun r row => ShowsCells (columns.map width) row (columns.map (cellText r))) records rows

theorem toList_padded (width : Nat) (text : String) :
    (padded width text).toList = text.toList ++ List.replicate (width - text.length) ' ' := by
  rw [padded, String.toList_append, String.toList_ofList]

/-- A text that is not wider than its column in bytes fills it in characters. -/
theorem length_padded {width : Nat} {text : String} (fits : text.utf8ByteSize ≤ width) :
    (padded width text).toList.length = width := by
  have short := Text.length_le_utf8ByteSize text
  rw [toList_padded, List.length_append, List.length_replicate, String.length_toList]
  omega

/-- Texts that are padded to the widths of the columns make a line that shows them. -/
theorem showsCells_intercalate {columns : List String} {width : String → Nat} {text : String → String}
    (fits : ∀ c ∈ columns, (text c).utf8ByteSize ≤ width c) :
    ShowsCells (columns.map width) (" │ ".intercalate (columns.map fun c => padded (width c) (text c)))
      (columns.map text) := by
  refine ⟨_, (cut_and_length rfl fun c mem => length_padded (fits c mem)).1, ?_⟩
  rw [List.forall₂_map_left_iff, List.forall₂_map_right_iff, List.forall₂_same]
  exact fun c _ => ⟨_, toList_padded _ _⟩

/-! ## Columns -/

/-- A column is as wide as needed for its name and for every cell, and no wider. -/
theorem columnWidth_le_iff (records : List Record) (c : String) (n : Nat) :
    columnWidth records c ≤ n ↔ c.utf8ByteSize ≤ n ∧ ∀ r ∈ records, (cellText r c).utf8ByteSize ≤ n := by
  unfold columnWidth
  generalize c.utf8ByteSize = start
  induction records generalizing start with
  | nil => simp
  | cons r records ih =>
    rw [List.foldl_cons, ih, Nat.max_le, List.forall_mem_cons, and_assoc]

/-- Putting a field into its place adds its name and loses none. -/
theorem mem_map_putMember {α : Type} {name other : String} {value : α} {fields : List (String × α)} :
    other ∈ (Json.putMember name value fields).map (·.1) ↔ other = name ∨ other ∈ fields.map (·.1) := by
  induction fields with
  | nil => simp [Json.putMember]
  | cons first rest ih =>
    rw [Json.putMember]
    split_ifs with before same
    · simp
    · simp [same]
    · rw [List.map_cons, List.mem_cons, ih, List.map_cons, List.mem_cons]
      tauto

/-- The columns ascend, each of them once. -/
theorem columns_ascending (records : List Record) : (columns records).Pairwise (· < ·) := by
  rw [columns, List.pairwise_map]
  generalize records.flatMap Record.fields = fields
  suffices h : ∀ sorted : List (String × Unit), sorted.Pairwise (·.1 < ·.1) →
      (fields.foldl (fun sorted field => Json.putMember field.1 () sorted) sorted).Pairwise (·.1 < ·.1) from
    h [] .nil
  induction fields with
  | nil => exact fun sorted h => h
  | cons field fields ih => exact fun sorted h => ih _ (Record.pairwise_putMember field.1 () h)

/-- A record has a value for exactly the names of its fields. -/
theorem exists_get?_iff {r : Record} {c : String} :
    (∃ value, r.get? c = some value) ↔ c ∈ r.fields.map (·.1) := by
  rw [← Option.isSome_iff_exists, Record.get?, List.lookup_isSome_iff, List.mem_map]
  simp only [beq_iff_eq, @eq_comm _ c]

/-- The columns are the names that some record has a value for. -/
theorem mem_columns_iff {records : List Record} {c : String} :
    c ∈ columns records ↔ ∃ r ∈ records, ∃ value, r.get? c = some value := by
  have fields : c ∈ columns records ↔ c ∈ (records.flatMap Record.fields).map (·.1) := by
    rw [columns]
    generalize records.flatMap Record.fields = fields
    suffices h : ∀ sorted : List (String × Unit),
        c ∈ (fields.foldl (fun sorted field => Json.putMember field.1 () sorted) sorted).map (·.1) ↔
          c ∈ fields.map (·.1) ∨ c ∈ sorted.map (·.1) by
      simpa using h []
    induction fields with
    | nil => simp
    | cons field fields ih =>
      intro sorted
      rw [List.foldl_cons, ih, mem_map_putMember, List.map_cons, List.mem_cons]
      tauto
  rw [fields, List.map_flatMap, List.mem_flatMap]
  simp only [exists_get?_iff]

/-! ## Answers -/

/-- The lines of a table are a table of its records. -/
theorem isTable_tableLines (records : List Record) :
    ∃ header rule rows, tableLines records = header :: rule :: rows ∧
      IsTable records (columns records) (columnWidth records) header rule rows := by
  have fits_names : ∀ c ∈ columns records, c.utf8ByteSize ≤ columnWidth records c := fun c _ =>
    ((columnWidth_le_iff records c _).mp le_rfl).1
  have fits : ∀ r ∈ records, ∀ c ∈ columns records, (cellText r c).utf8ByteSize ≤ columnWidth records c :=
    fun r mem c _ => ((columnWidth_le_iff records c _).mp le_rfl).2 r mem
  have ruled : ∀ c ∈ columns records,
      (String.ofList (List.replicate (columnWidth records c) '─')).toList.length = columnWidth records c := by
    intro c _
    rw [String.toList_ofList, List.length_replicate]
  refine ⟨_, _, _, rfl, ?_⟩
  simp only [List.map_map, Function.comp_def]
  refine ⟨(columns_ascending records).imp Text.bytes_lt, fun c => mem_columns_iff, columnWidth_le_iff records,
    ?aligned, ?header, ?rule, ?rows⟩
  case aligned =>
    refine List.forall_mem_cons.mpr ⟨?_, List.forall_mem_cons.mpr ⟨?_, ?_⟩⟩
    · exact (cut_and_length rfl fun c mem => length_padded (fits_names c mem)).2
    · exact (cut_and_length rfl ruled).2
    · refine List.forall_mem_map.mpr fun r mem => ?_
      exact (cut_and_length rfl fun c mem' => length_padded (fits r mem c mem')).2
  case header =>
    have shown := showsCells_intercalate fits_names
    rwa [List.map_id'] at shown
  case rule =>
    have cut := (cut_and_length (rfl : "─┼─".toList.length = 3) ruled).1
    simpa only [String.toList_ofList] using cut
  case rows =>
    rw [List.forall₂_map_right_iff, List.forall₂_same]
    exact fun r mem => showsCells_intercalate (fits r mem)

example :
    tableLines [Record.ofList [("city", .string "Łódź")], Record.ofList [("id", .null)]] = [
      "city    │ id  ",
      "────────┼─────",
      "Łódź    │     ",
      "        │ NULL"] := by
  decide +kernel

/-- An answer with records in the format of a table: the lines of a table, an empty line and the number of
records. -/
theorem found_table {f : Found} (some : f.isEmpty = false) :
    ∃ header rule rows,
      found f .table = String.join ((header :: rule :: rows).map (· ++ "\n")) ++ "\n" ++
        s!"{f.records.length} row(s) returned\n" ∧
      IsTable f.records (columns f.records) (columnWidth f.records) header rule rows := by
  obtain ⟨header, rule, rows, lines, table⟩ := isTable_tableLines f.records
  refine ⟨header, rule, rows, ?_, table⟩
  rw [found, if_neg (by rw [some]; decide), ← lines]

/-- Two records with different fields, a text that has more bytes than characters, and a list. -/
def twoRecords : Found := .many [
  Record.ofList [("name", .string "Łódź"), ("id", .number (.ofInt64 7))],
  Record.ofList [("näher", .null), ("id", .array [.bool true, .string "ü"])]]

theorem found_table_of_two_records :
    twoRecords.isEmpty = false ∧
      ∃ header rule rows,
        found twoRecords .table = String.join ((header :: rule :: rows).map (· ++ "\n")) ++ "\n" ++
          s!"{twoRecords.records.length} row(s) returned\n" ∧
        IsTable twoRecords.records (columns twoRecords.records) (columnWidth twoRecords.records) header rule
          rows :=
  ⟨rfl, found_table rfl⟩

end NameQuery.Report
