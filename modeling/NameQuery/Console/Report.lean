import NameQuery.Console.Format
import NameQuery.Json.Printer
import NameQuery.Query.Form
import NameQuery.Table.Found

/-!
# Reports

Queries and answers as a terminal shows them, as a table or as JSON data. A query is a table of six
rows. An answer is a table of its records: the columns are the names of all fields of all records in
ascending order, and each is as wide as its widest value or its name, counted in bytes of UTF-8.
Since no text has more characters than bytes, every cell that is padded to this width is complete
and the columns are aligned.

An answer without records is one line in both formats.
-/

set_option autoImplicit false

namespace NameQuery

namespace Report

/-- A text with spaces after it, so that it has at least `width` characters. Every width is taken: where
the formatter of a build refuses widths above 65535, it is assumed that no value or name has more bytes than that. -/
def padded (width : Nat) (text : String) : String :=
  text ++ String.ofList (List.replicate (width - text.length) ' ')

/-! ## Queries -/

def queryRows (q : Query) : List (String × String) := [
  ("select", q.select),
  ("where", q.filter),
  ("order", q.order),
  ("limit", toString q.limit.toNat),
  ("offset", toString q.offset.toNat),
  ("values", "[" ++ ", ".intercalate (q.values.map Value.display) ++ "]")]

/-- A query, with the end of its last line. -/
def query (q : Query) : Format → String
  | .json => q.toJson.pretty ++ "\n"
  | .table => String.join ((queryRows q).map fun (key, text) => s!"  {padded 8 key} {text}\n")

/-! ## Answers -/

def cell : Json → String
  | .null => "NULL"
  | .bool b => if b then "true" else "false"
  | .number n => Json.numberText n
  | .string s => s
  | other => other.compact

/-- The text of a column in a record, empty where the record does not have it. -/
def cellText (r : Record) (column : String) : String := ((r.get? column).map cell).getD ""

/-- The names of all fields of all records, in ascending order. -/
def columns (records : List Record) : List String :=
  ((records.flatMap Record.fields).foldl (fun sorted (name, _) => Json.putMember name () sorted)
    []).map (·.1)

/-- The width of a column, in bytes. -/
def columnWidth (records : List Record) (column : String) : Nat :=
  records.foldl (fun width r => max width (cellText r column).utf8ByteSize) column.utf8ByteSize

/-- The lines of a table of records: the names of the columns, a rule, and the records. -/
def tableLines (records : List Record) : List String :=
  let layout := (columns records).map fun c => (c, columnWidth records c)
  let joined := fun cells => " │ ".intercalate cells
  joined (layout.map fun (c, width) => padded width c) ::
    "─┼─".intercalate (layout.map fun (_, width) => String.ofList (List.replicate width '─')) ::
    records.map fun r => joined (layout.map fun (c, width) => padded width (cellText r c))

/-- An answer, with the end of its last line. -/
def found (f : Found) (format : Format) : String :=
  if f.isEmpty then "(no results)\n"
  else match format, f with
    | .json, .one r => r.toJson.pretty ++ "\n"
    | .json, _ => (Json.array (f.records.map Record.toJson)).pretty ++ "\n"
    | .table, _ =>
      String.join ((tableLines f.records).map (· ++ "\n")) ++ "\n" ++
        s!"{f.records.length} row(s) returned\n"

end Report

end NameQuery
