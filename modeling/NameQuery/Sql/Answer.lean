import NameQuery.Sql.Script
import NameQuery.Sql.Statement
import NameQuery.Table.Record

/-!
# What a statement answers

A database answers the statement of a query with records (`Database.answer`). A statement is plain on
a table if its text can mean only one thing: the table and the columns stand in it as words that are
nothing but names, and no bound of SQL is passed (`Statement.isPlainOn`). Then a row is kept if every
predicate is true of it, kept rows are sorted, the limit and the offset choose among them, and the
selected columns of each are read back. The text of any other statement is carried out as a script:
the name of a table is not examined before, so it can hold any text at all.

A record has the names of columns as the table declares them.
-/

set_option autoImplicit false

namespace NameQuery.Statement

open Sql

/-! ## Plain statements -/

/-- The names of columns that a statement mentions, in the order of its text. -/
def mentioned (s : Statement) : List String :=
  (s.columns.filter (· != "*")) ++ s.predicates.map Predicate.field ++ (s.order.getD []).map (·.1)

/-- The height of the condition of a statement as an expression: comparisons stand on their fields,
and each further predicate stands beside all before it. -/
def conditionHeight : List Predicate → Nat
  | [] => 0
  | p :: ps => ps.foldl (fun height p => max height (p.marks + 1) + 1) (p.marks + 1)

/-- A statement does not pass the bounds of SQL. -/
def isBounded (s : Statement) (t : Table) : Bool :=
  let results := s.columns.foldl (fun n c => if c = "*" then n + t.columns.length else n + 1) 0
  results ≤ 2000 && (s.order.getD []).length ≤ 2000 && conditionHeight s.predicates ≤ 1000 &&
    s.predicates.foldl (fun n p => n + p.marks) 0 ≤ 32_766 &&
    max s.limit.toNat s.offset.toNat ≤ 9_223_372_036_854_775_807

/-- The text of a statement means the given table and columns of it. -/
def isPlainOn (s : Statement) (t : Table) : Bool :=
  isPlainTable s.table && !s.columns.isEmpty &&
    s.mentioned.all (fun name => isPlainWord name && t.hasColumn name) &&
    s.order ≠ some [] && (s.limit ≠ 0 || s.offset = 0) && s.isBounded t

/-! ## Rows -/

/-- A predicate of a row under the values bound to its placeholders. The first comparison is with
the column, each further one with the result so far. -/
def holdsOn (row : Row) (p : Predicate) (bound : List Cell) : Option Bool :=
  match row.column? p.field, bound with
  | none, _ => none
  | some (_, cell), [] => cell.holds?
  | some (column, cell), b :: bs =>
    bs.foldl (fun result b => Affinity.untyped.equal (.ofTruth result) b) (column.affinity.equal cell b)

/-- Every predicate is true of a row. The placeholders take the values in turn; a placeholder
without a value is null. -/
def keeps (row : Row) : List Predicate → List Cell → Bool
  | [], _ => true
  | p :: ps, values =>
    let bound := (List.range p.marks).map fun i => (values[i]?).getD .null
    holdsOn row p bound = some true && keeps row ps (values.drop p.marks)

/-- The order of two rows by the entries of a statement: the first that differs decides. -/
def rowOrder : List (String × Option Direction) → Row → Row → Ordering
  | [], _, _ => .eq
  | (field, direction) :: entries, a, b =>
    (Record.directed direction ((a.cell field).order (b.cell field))).then (rowOrder entries a b)

/-- The selected cells of a row, a star standing for all of them. -/
def selected (columns : List String) (row : Row) : Row :=
  columns.flatMap fun c => if c = "*" then row else (row.column? c).toList

def rows (s : Statement) (values : List Cell) (all : List Row) : List Row :=
  let kept := all.filter fun row => keeps row s.predicates values
  let sorted := match s.order with
    | none => kept
    | some entries => kept.mergeSort fun a b => (rowOrder entries a b).isLE
  let rest := sorted.drop s.offset.toNat
  (if s.limit = 0 then rest else rest.take s.limit.toNat).map (selected s.columns)

end NameQuery.Statement

namespace NameQuery.Sql

/-- A row as a record: each cell as its column reads it back. -/
def Row.record (row : Row) : Except Failure Record := do
  let fields ← row.mapM fun (c, cell) => do return (c.name, ← c.type.read c.name cell)
  return Record.ofList fields

namespace Database

/-- The table on which a statement is plain, if there is one. -/
def plainTable? (db : Database) (s : Statement) : Option Table :=
  if db.foreign then none else (db.table? s.table).filter fun t => s.isPlainOn t

/-- The rows that a statement answers, its placeholders written in the given style. -/
def rows (db : Database) (style : Placeholder) (s : Statement) (values : List Cell) :
    Except Failure (List Row) :=
  match db.plainTable? s with
  | some t => .ok (s.rows values t.rows)
  | none => Script.rows db values (s.text style)

def answer (db : Database) (style : Placeholder) (s : Statement) (values : List Cell) :
    Except Failure (List Record) := do
  (← db.rows style s values).mapM Row.record

end Database

end NameQuery.Sql
