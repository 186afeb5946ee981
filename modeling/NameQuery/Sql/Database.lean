import NameQuery.Sql.Cell
import NameQuery.Sql.Word

/-!
# Databases

An SQLite database is a list of tables, each with columns of declared types and rows of cells. Names
of tables and columns are the same if they differ only in capitals of ASCII. A value that is inserted
takes the form that its column stores.
-/

set_option autoImplicit false

namespace NameQuery.Sql

structure Column where
  name : String
  declared : String

namespace Column

def affinity (c : Column) : Affinity := .ofDeclared c.declared

def type (c : Column) : ColumnType := .ofDeclared c.declared

end Column

/-- A row: the cells of the columns that it belongs to, in their order. -/
abbrev Row := List (Column × Cell)

structure Table where
  name : String
  columns : List Column
  rows : List Row

structure Database where
  tables : List Table := []
  /-- The file of the database holds something else. -/
  foreign : Bool := false

namespace Row

def column? (row : Row) (name : String) : Option (Column × Cell) :=
  List.find? (fun (c, _) => sameName c.name name) row

def cell (row : Row) (name : String) : Cell := ((row.column? name).map (·.2)).getD .null

end Row

namespace Table

def ofColumns (name : String) (columns : List Column) : Table := ⟨name, columns, []⟩

/-- A table with one more row, each value in the form that its column stores. -/
def insert (t : Table) (values : List Cell) : Table :=
  { t with rows := t.rows ++ [(t.columns.zip values).map fun (c, v) => (c, c.affinity.store v)] }

def hasColumn (t : Table) (name : String) : Bool := t.columns.any fun c => sameName c.name name

/-- The cells of the rows, each with the number of its row behind them. -/
def numberedRows (t : Table) : List (List Cell) :=
  t.rows.zipIdx.map fun (row, i) => row.map (·.2) ++ [.integer (i + 1)]

end Table

namespace Database

def table? (db : Database) (name : String) : Option Table :=
  db.tables.find? fun t => sameName t.name name

/-- The place of the table at a path: its name, which the one name of all tables may stand before. -/
def index? (db : Database) (path : List String) : Option Nat :=
  let named := fun (name : String) => db.tables.findIdx? fun t => sameName t.name name
  match path with
  | [name] => named name
  | [schema, name] => if sameName schema "main" then named name else none
  | _ => none

/-- The statement that makes a table. -/
def creation (t : Table) : String :=
  let quoted := fun (name : String) => "\"" ++ name ++ "\""
  let columns := t.columns.map fun c => quoted c.name ++ " " ++ c.declared
  "CREATE TABLE " ++ quoted t.name ++ " (" ++ ", ".intercalate columns ++ ")"

/-- The table of all tables. The pages of the file are given to them in turn, from the second one on. -/
def catalog (db : Database) : Table :=
  let row := fun (t : Table) (page : Nat) =>
    [.text "table", .text t.name, .text t.name, .integer page, .text (creation t)]
  db.tables.zipIdx.foldl (fun all (t, i) => all.insert (row t (i + 2)))
    (Table.ofColumns "sqlite_master" [⟨"type", "TEXT"⟩, ⟨"name", "TEXT"⟩, ⟨"tbl_name", "TEXT"⟩,
      ⟨"rootpage", "INT"⟩, ⟨"sql", "TEXT"⟩])

/-- The table at a path. The table of all tables has two names. -/
def tableAt? (db : Database) (path : List String) : Option Table :=
  match db.index? path with
  | some i => db.tables[i]?
  | none =>
    let all : Database := { tables := [{ db.catalog with name := "sqlite_schema" }, db.catalog] }
    if (all.index? path).isSome then some db.catalog else none

end Database

end NameQuery.Sql
