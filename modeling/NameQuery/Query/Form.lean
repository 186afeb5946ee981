import NameQuery.Query.Basic

/-!
# Queries as JSON data

A query is written as an object of six members and read from such an object, other members being
ignored, or from the list of the six in their order. A limit and an offset are whole numbers; a
double is refused even if it is whole. Anything else is no query.
-/

set_option autoImplicit false

namespace NameQuery

def Value.listOfJson? : Json → Option (List Value)
  | .array elements => elements.mapM Value.ofJson?
  | _ => none

namespace Query

/-- The members of a query as they are written, in their order. -/
def members (q : Query) : List (String × Json) := [
  ("select", .string q.select),
  ("where", .string q.filter),
  ("order", .string q.order),
  ("limit", .ofUInt64 q.limit),
  ("offset", .ofUInt64 q.offset),
  ("values", .array (q.values.map Value.toJson))]

def toJson (q : Query) : Json := .object q.members

def text? : Json → Option String
  | .string s => some s
  | _ => none

/-- A natural number of 64 bits in JSON data. -/
def count? : Json → Option UInt64
  | .number n => n.toUInt64?
  | _ => none

def ofParts? (select filter order limit offset values : Json) : Option Query := do
  some {
    select := ← text? select
    filter := ← text? filter
    order := ← text? order
    limit := ← count? limit
    offset := ← count? offset
    values := ← Value.listOfJson? values }

def ofJson? : Json → Option Query
  | .array [select, filter, order, limit, offset, values] =>
    ofParts? select filter order limit offset values
  | .object ms => do
    ofParts? (← ms.lookup "select") (← ms.lookup "where") (← ms.lookup "order") (← ms.lookup "limit")
      (← ms.lookup "offset") (← ms.lookup "values")
  | _ => none

end Query

end NameQuery
