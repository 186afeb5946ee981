import NameQuery.Sql.Syntax

/-!
# Faults

What can be wrong with a statement that is well formed, with the message that SQLite has for it. A
path is a name with the names before it. Whoever finds a fault decides when it counts: `raise` tells
one that counts now, and `orFault` keeps one for later.
-/

set_option autoImplicit false

namespace NameQuery.Sql

/-- Why a statement cannot be carried out. -/
inductive Fault
  | noTable (path : List String)
  | noColumn (path : List String)
  | ambiguousColumn (path : List String)
  | noFunction (name : String)
  | noIndex (name : String)
  /-- A table that is used as a function. -/
  | calledTable (name : String)
  /-- A star without a source. -/
  | noSource
  /-- A column that two sources are joined by, and that one of them does not have. -/
  | notShared (column : String)
  /-- A natural join with a condition or with columns. -/
  | overdeterminedJoin
  | tooManyResults
  | tooManyOrderTerms
  /-- A term of an order that counts to no result. -/
  | orderOutOfRange (term results : Nat)
  /-- A term of an order that means no result of statements that are put together. -/
  | unmatchedOrder (term : Nat)
  /-- Statements that are put together and differ in the number of results. -/
  | differentWidths (op : CompoundOp)
deriving DecidableEq

/-- A number as it counts terms. -/
def ordinal (n : Nat) : String :=
  let ending := if n / 10 % 10 = 1 then "th"
    else match n % 10 with
      | 1 => "st"
      | 2 => "nd"
      | 3 => "rd"
      | _ => "th"
  toString n ++ ending

namespace Fault

def dotted (path : List String) : String := ".".intercalate path

def message : Fault → String
  | .noTable path => "no such table: " ++ dotted path
  | .noColumn path => "no such column: " ++ dotted path
  | .ambiguousColumn path => "ambiguous column name: " ++ dotted path
  | .noFunction name => s!"no such function: {name}"
  | .noIndex name => s!"no such index: {name}"
  | .calledTable name => s!"'{name}' is not a function"
  | .noSource => "no tables specified"
  | .notShared column => s!"cannot join using column {column} - column not present in both tables"
  | .overdeterminedJoin => "a NATURAL join may not have an ON or USING clause"
  | .tooManyResults => "too many columns in result set"
  | .tooManyOrderTerms => "too many terms in ORDER BY clause"
  | .orderOutOfRange term results =>
    s!"{ordinal term} ORDER BY term out of range - should be between 1 and {results}"
  | .unmatchedOrder term => s!"{ordinal term} ORDER BY term does not match any column in the result set"
  | .differentWidths op =>
    s!"SELECTs to the left and right of {op.text} do not have the same number of result columns"

/-- A fault that counts now. -/
def raise : Option Fault → Except Fault Unit
  | none => .ok ()
  | some why => .error why

/-- A value, or another one and the fault for which there is none. -/
def orFault {α : Type} (other : α) : Except Fault α → α × Option Fault
  | .ok a => (a, none)
  | .error why => (other, some why)

end Fault

end NameQuery.Sql
