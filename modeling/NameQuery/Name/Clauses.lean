/-!
# What a finder name says

The clauses that the words of a name add up to: the columns to select, the predicates and the order,
each in the order of the words, with repetitions, and a limit and an offset where there are any. A
predicate is kept as text, a field followed by `=?`; an order entry is a field, alone or followed by
a space and its direction.
-/

set_option autoImplicit false

namespace NameQuery.Name

/-- The clauses of a finder name. -/
structure Clauses where
  select : List String := []
  filters : List String := []
  order : List String := []
  limit : Option UInt64 := none
  offset : Option UInt64 := none
deriving DecidableEq

namespace Clauses

def addColumn (c : Clauses) (field : String) : Clauses := { c with select := c.select ++ [field] }

def addEveryColumn (c : Clauses) : Clauses := c.addColumn "*"

/-- At most one row. -/
def limitToOne (c : Clauses) : Clauses := { c with limit := some 1 }

/-- One more predicate: the field equals a bound value. -/
def addPredicate (c : Clauses) (field : String) : Clauses :=
  { c with filters := c.filters ++ [field ++ "=?"] }

def addOrder (c : Clauses) (entry : String) : Clauses := { c with order := c.order ++ [entry] }

end Clauses

end NameQuery.Name
