import NameQuery.Sql.Calculation

/-!
# Terms

An expression whose names have been looked up is a term: a column is a position in a row, with the
affinity that the column has. What a term is worth on a row (`Term.value`) needs no names any more,
and neither can it fail.
-/

set_option autoImplicit false

namespace NameQuery.Sql

/-- An expression whose names have been looked up. -/
inductive Term
  | constant (c : Cell)
  | parameter (number : Nat)
  /-- The column at a position. A column that is calculated may have no affinity. -/
  | column (position : Nat) (affinity : Option Affinity)
  | signed (op : SignOp) (t : Term)
  | paired (op : PairOp) (a b : Term)
  | choice (condition a b : Term)
  | converted (t : Term) (type : Affinity)
deriving DecidableEq

namespace Term

def affinity : Term → Option Affinity
  | .column _ affinity => affinity
  | .converted _ type => some type
  | _ => none

/-- What a term is worth on a row, under the cells that are bound to parameters. -/
def value (bound : Nat → Cell) (row : List Cell) : Term → Cell
  | .constant c => c
  | .parameter n => bound n
  | .column i _ => (row[i]?).getD .null
  | .signed op t => op.on (t.value bound row)
  | .paired op a b =>
    op.on (Affinity.common a.affinity b.affinity) (a.value bound row) (b.value bound row)
  | .choice c a b =>
    if (c.value bound row).holds? = some true then a.value bound row else b.value bound row
  | .converted t type => Cell.converted type (t.value bound row)

/-- A term holds on a row. -/
def holds (bound : Nat → Cell) (row : List Cell) (t : Term) : Bool :=
  (t.value bound row).holds? = some true

/-- The first of two terms that is not null. -/
def orElse (a b : Term) : Term := .choice (.paired .different a (.constant .null)) a b

end Term

end NameQuery.Sql
