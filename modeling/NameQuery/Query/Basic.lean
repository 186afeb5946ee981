import NameQuery.Failure
import NameQuery.Name.Clauses
import NameQuery.Text.Pieces
import NameQuery.Value

/-!
# Queries

A query is the compiled form of a finder call: three clauses as text, a limit and an offset, and the
values to bind. The texts are what the clauses of a name join to (`Query.ofClauses`), and they can
also come from elsewhere, so whoever answers a query reads them back: `columns`, `filterFields` and
`orderFields`. What is decided here is that reading: commas and ` AND ` separate, empty columns, the
column `*` and empty order entries do not count, every `=?` at the end of a predicate is dropped,
and an order entry is a field and a direction only if `asc` or `desc` is all that follows its first
space.

A query expects one value for each predicate (`placeholderCount`); a limit of zero is no limit, and
a limit of one asks for a record instead of a list. The doubles among the values are finite
(`Value.float`): nothing here speaks of a query with NaN or an infinity bound to it.
-/

set_option autoImplicit false

namespace NameQuery

inductive Direction
  | ascending
  | descending
deriving DecidableEq

/-- The compiled form of a finder call. -/
structure Query where
  /-- Columns separated by commas, or nothing. -/
  select : String
  /-- Predicates separated by ` AND `. -/
  filter : String
  /-- Order entries separated by commas. -/
  order : String
  /-- Zero for no limit. -/
  limit : UInt64
  offset : UInt64
  /-- The values to bind, in the order of the predicates. -/
  values : List Value
deriving DecidableEq

namespace Query

def ofClauses (c : Name.Clauses) (values : List Value) : Query where
  select := ",".intercalate c.select
  filter := " AND ".intercalate c.filters
  order := ",".intercalate c.order
  limit := c.limit.getD 0
  offset := c.offset.getD 0
  values := values

/-! ## Reading the clauses -/

/-- A text read backwards without the placeholder marks `=?` that it begins with. -/
def dropMarks : List Char → List Char
  | '?' :: '=' :: cs => dropMarks cs
  | cs => cs

/-- A predicate without the placeholder marks at its end. -/
def withoutMarks (predicate : List Char) : List Char := (dropMarks predicate.reverse).reverse

/-- The columns to select, or none for every column. -/
def columns (q : Query) : List String :=
  ((Text.pieces ',' q.select.toList).filter fun c => !c.isEmpty && c != ['*']).map String.ofList

/-- The predicates, with their placeholder marks. -/
def predicates (q : Query) : List (List Char) :=
  if q.filter.isEmpty then [] else Text.piecesAt " AND ".toList q.filter.toList

/-- The fields of the predicates, in the order of the values. -/
def filterFields (q : Query) : List String :=
  q.predicates.map fun p => String.ofList (withoutMarks p)

/-- The field and the direction of an order entry. An entry of another form is its own field. -/
def orderField (entry : List Char) : String × Option Direction :=
  match Text.cutOnce ' ' entry with
  | some (field, ['a', 's', 'c']) => (String.ofList field, some .ascending)
  | some (field, ['d', 'e', 's', 'c']) => (String.ofList field, some .descending)
  | _ => (String.ofList entry, none)

/-- The fields to order by, each with its direction where it has one. -/
def orderFields (q : Query) : List (String × Option Direction) :=
  ((Text.pieces ',' q.order.toList).filter fun e => !e.isEmpty).map orderField

/-- The number of values that the query expects. -/
def placeholderCount (q : Query) : Nat := q.filterFields.length

/-- The query asks for one record. -/
def wantsOne (q : Query) : Bool := q.limit == 1

/-! ## Values and rows -/

/-- As many values as predicates. -/
def checkBindings (q : Query) : Except Failure Unit :=
  if q.placeholderCount = q.values.length then .ok ()
  else .error (.bindMismatch q.placeholderCount q.values.length)

/-- The rows that offset and limit leave of a list. -/
def page {α : Type} (q : Query) (rows : List α) : List α :=
  let rest := rows.drop q.offset.toNat
  if q.limit = 0 then rest else rest.take q.limit.toNat

end Query

end NameQuery
