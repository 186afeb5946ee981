import NameQuery.Query.Basic

/-!
# Statements

The SELECT statement of a query over a table, and its text. Field names go into the text as they
are, so a query has a statement only if every field that it selects, compares or orders by is an
identifier (`isIdentifier`: small letters of ASCII, digits and underscores, at least one); of
several that are not, the first one is reported, columns before predicates before order entries
(`Statement.ofQuery`).

A predicate compares its field with as many placeholders as it has marks, which is one for every
query that a name compiles to. Placeholders are question marks, or dollar signs with the number of
the placeholder, counted from one (`Placeholder`). The name of the table is not examined.

The text of a statement is the same text that the clauses of its query make when they are pasted as
they are (`Query.sql_eq_pasted`).
-/

set_option autoImplicit false

namespace NameQuery

/-- A word that may stand for a field in SQL text. -/
def isIdentifier (s : String) : Bool :=
  !s.toList.isEmpty && s.toList.all fun c => c.isLower || c.isDigit || c = '_'

/-- How placeholders are written. -/
inductive Placeholder
  /-- A question mark. -/
  | question
  /-- A dollar sign and the number of the placeholder. -/
  | dollar
deriving DecidableEq

/-- The placeholders that the database at an address takes. Dollar signs are for PostgreSQL. -/
def Placeholder.forUrl (url : String) : Placeholder :=
  if "postgres://".toList.isPrefixOf url.toList || "postgresql://".toList.isPrefixOf url.toList then
    .dollar
  else .question

/-- A field and the number of placeholders that it is compared with. -/
structure Predicate where
  field : String
  marks : Nat
deriving DecidableEq

structure Statement where
  /-- The columns as they are written between commas. -/
  columns : List String
  table : String
  predicates : List Predicate
  /-- Nothing without an ORDER BY clause. -/
  order : Option (List (String × Option Direction))
  limit : UInt64
  offset : UInt64
deriving DecidableEq

namespace Statement

/-- Every one of some fields is an identifier, or the first one that is not is reported. -/
def checkFields (clause : String) : List String → Except Failure Unit
  | [] => .ok ()
  | f :: fs => if isIdentifier f then checkFields clause fs else .error (.invalidField clause f)

/-- All fields of a query are identifiers, or the first one that is not is reported. -/
def check (q : Query) : Except Failure Unit := do
  checkFields "select" q.columns
  checkFields "where" q.filterFields
  checkFields "order" (q.orderFields.map (·.1))

/-- A predicate from its text. -/
def predicateOf (text : List Char) : Predicate :=
  let field := Query.withoutMarks text
  ⟨String.ofList field, (text.length - field.length) / 2⟩

def ofQuery (q : Query) (table : String) : Except Failure Statement := do
  check q
  .ok {
    columns :=
      if q.select.isEmpty then ["*"] else (Text.pieces ',' q.select.toList).map String.ofList
    table := table
    predicates := q.predicates.map predicateOf
    order := if q.order.isEmpty then none else some q.orderFields
    limit := q.limit
    offset := q.offset }

/-! ## Text -/

/-- One placeholder, of the given number. -/
def placeholderText : Placeholder → Nat → String
  | .question, _ => "?"
  | .dollar, n => "$" ++ toString n

/-- A predicate whose first placeholder has the given number. -/
def predicateText (style : Placeholder) (first : Nat) (p : Predicate) : String :=
  p.field ++ String.join ((List.range p.marks).map fun i => " = " ++ placeholderText style (first + i))

/-- The predicates, the placeholders numbered from the given number on. -/
def predicateTexts (style : Placeholder) : Nat → List Predicate → List String
  | _, [] => []
  | n, p :: ps => predicateText style n p :: predicateTexts style (n + p.marks) ps

def orderText : String × Option Direction → String
  | (field, some .ascending) => field ++ " ASC"
  | (field, some .descending) => field ++ " DESC"
  | (field, none) => field

/-- What follows the table in the text of a statement. -/
def tail (style : Placeholder) (s : Statement) : String :=
  (if s.predicates.isEmpty then ""
    else " WHERE " ++ " AND ".intercalate (predicateTexts style 1 s.predicates)) ++
  (match s.order with
    | none => ""
    | some entries => " ORDER BY " ++ ", ".intercalate (entries.map orderText)) ++
  (if s.limit = 0 then "" else " LIMIT " ++ toString s.limit.toNat) ++
  (if s.offset = 0 then "" else " OFFSET " ++ toString s.offset.toNat)

def text (style : Placeholder) (s : Statement) : String :=
  "SELECT " ++ ", ".intercalate s.columns ++ " FROM " ++ s.table ++ tail style s

end Statement

/-- The SQL text of a query over a table. -/
def Query.sql (q : Query) (style : Placeholder) (table : String) : Except Failure String :=
  (Statement.ofQuery q table).map (Statement.text style)

end NameQuery
