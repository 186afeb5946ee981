import NameQuery.Sql.Cell

/-!
# The syntax of SQL

Expressions, sources of rows, SELECT statements and commands, as they come from a text: names are
not looked up yet, and stars are not filled in. BETWEEN, IN with a list and CASE with an operand are
no expressions of their own; they are read as the comparisons that they stand for.
-/

set_option autoImplicit false

namespace NameQuery.Sql

/-- An operator before an expression. -/
inductive SignOp
  | not
  | minus
  /-- No change, but the column behind it no longer counts as a column. -/
  | plus
deriving DecidableEq

/-- An operator between two expressions. -/
inductive PairOp
  | or
  | and
  | equal
  | unequal
  | same
  | different
  | less
  | atMost
  | greater
  | atLeast
  | like
  | add
  | subtract
  | multiply
  | divide
  | remainder
  | concat
deriving DecidableEq

inductive Expr
  | value (c : Cell)
  | parameter (number : Nat)
  /-- A name with the names that it is qualified by; in double quotes it can also be a string. -/
  | name (path : List String) (doubleQuoted : Bool)
  | signed (op : SignOp) (e : Expr)
  | paired (op : PairOp) (a b : Expr)
  /-- The second expression where the first one holds, and the third one elsewhere. -/
  | choice (condition a b : Expr)
  /-- An expression as a value of the given type. -/
  | converted (e : Expr) (type : String)
  | call (function : String)

/-- What is selected: a result column, or all of them. -/
inductive Item
  | all
  | allOf (table : String)
  | expr (e : Expr) (alias? : Option String) (text : String)

structure OrderTerm where
  expr : Expr
  descending : Bool

/-- How two sources are joined. -/
structure JoinKind where
  /-- On all columns with equal names. -/
  natural : Bool
  /-- Rows of the left side without a partner stay. -/
  keepsLeft : Bool
  keepsRight : Bool
deriving DecidableEq

/-- How the rows of two statements are put together. -/
inductive CompoundOp
  | union
  | unionAll
  | except
  | intersect
deriving DecidableEq

def CompoundOp.text : CompoundOp → String
  | .union => "UNION"
  | .unionAll => "UNION ALL"
  | .except => "EXCEPT"
  | .intersect => "INTERSECT"

/-- What is written after the name of a table. -/
inductive TableUse
  | plain
  | indexed (index : String)
  /-- With arguments, as a function. -/
  | called
deriving DecidableEq

/-- The number of rows, and how many are passed over. -/
structure Paging where
  limit : Expr
  offset? : Option Expr

mutual
/-- What rows are taken from. -/
inductive Source
  /-- One row without columns. -/
  | nothing
  | table (path : List String) (alias? : Option String) (use : TableUse)
  | select (s : Select) (alias? : Option String)
  /-- Sources in brackets. -/
  | group (s : Source) (alias? : Option String)
  | join (left right : Source) (kind : JoinKind) (on? : Option Expr) (using_ : List String)
inductive Select
  | simple (distinct : Bool) (items : List Item) (source : Source) (filter? : Option Expr)
    (order : List OrderTerm) (paging? : Option Paging)
  | compound (op : CompoundOp) (left right : Select) (order : List OrderTerm)
    (paging? : Option Paging)
end

/-- A statement of any kind. -/
inductive Command
  /-- Blanks and comments only. -/
  | nothing
  | select (s : Select)
  | drop (path : List String) (ifExists : Bool)
  | delete (path : List String) (filter? : Option Expr)

end NameQuery.Sql
