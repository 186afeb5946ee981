import NameQuery.Json.Printer
import NameQuery.Table.Found

/-!
# Tables in memory

A store keeps tables of records in the order in which they came. A table exists from its first
record on. What is decided here is what a query finds in a table (`Store.find`): the rows in which
every predicate's field is present and agrees with its value, ordered by the order entries and else
in the order of insertion, from the offset on, at most as many as the limit, each showing the
columns of the query. Before a table is looked at, the values have to be as many as the predicates.
-/

set_option autoImplicit false

namespace NameQuery

/-- Tables of records by their names. -/
structure Store where
  tables : List (String × List Record) := []

namespace Store

def rows? (s : Store) (table : String) : Option (List Record) := s.tables.lookup table

/-- A row added at the end of a table among others. A table that is not among them is new. -/
def addRow (table : String) (row : Record) : List (String × List Record) → List (String × List Record)
  | [] => [(table, [row])]
  | (name, rows) :: tables =>
    if table = name then (name, rows ++ [row]) :: tables else (name, rows) :: addRow table row tables

/-- A store with one more record at the end of a table. -/
def insert (s : Store) (table : String) (row : Record) : Store := ⟨addRow table row s.tables⟩

/-- A store with an object of JSON data as one more record. Other data is refused. -/
def insertJson (s : Store) (table : String) : Json → Except Failure Store
  | .object members => .ok (s.insert table (Record.ofList members))
  | other => .error (.database s!"expected a JSON object, got {other.compact}")

/-- The number of records of a table, zero for one that does not exist. -/
def size (s : Store) (table : String) : Nat := ((s.rows? table).getD []).length

/-! ## Finding -/

/-- A row agrees with every value in the field that the value is bound to. -/
def agreesOn (fields : List String) (values : List Value) (row : Record) : Bool :=
  (fields.zip values).all fun (field, value) => (row.get? field).any value.agrees

/-- Rows in the order of the entries, rows that are equal on all of them in the order in which they
stand. -/
def ordered (entries : List (String × Option Direction)) (rows : List Record) : List Record :=
  rows.mergeSort fun a b => (Record.rowOrder entries a b).isLE

/-- The rows that a query selects of a table's rows. -/
def select (q : Query) (rows : List Record) : List Record :=
  (q.page (ordered q.orderFields (rows.filter (agreesOn q.filterFields q.values)))).map
    (Record.project q.columns)

def find (s : Store) (table : String) (q : Query) : Except Failure Found := do
  q.checkBindings
  match s.rows? table with
  | none => .error (.noSuchTable table)
  | some rows => .ok (.ofRows q.wantsOne (select q rows))

instance : Backend Store := ⟨find⟩

end Store

end NameQuery
