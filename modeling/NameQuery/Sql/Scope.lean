import NameQuery.Sql.Fault
import NameQuery.Sql.Term
import NameQuery.Sql.Word

/-!
# Names of columns

What a name in a statement means. A source of rows has headings, one for each position of its rows,
and a name is looked for among them (`Scope.find?`), alone or after the name of its source; it has to
fit exactly one. A number of the row has several names, but a column that is declared under one of
them comes first. A name that fits no heading may be the other name of a result, a string if it
stands in double quotes, or one of the words for true and false (`Scope.term`).
-/

set_option autoImplicit false

namespace NameQuery.Sql

/-- How a column is reached. -/
inductive Reach
  /-- By its name alone, and it is one of all columns. -/
  | plain
  /-- With the name of its source only. -/
  | qualified
  /-- With the name of its source only; among all columns the one at the position stands for it. -/
  | replaced (position : Nat)
  /-- By its name alone, but it stands for another one among all columns. -/
  | standing
  /-- By the names of the number of a row. -/
  | rowNumber
deriving DecidableEq

/-- What is known of a column of a source. -/
structure Heading where
  /-- The names of the source, its own one first. -/
  owners : List String
  /-- The source is a table of the database. -/
  stored : Bool
  name : String
  /-- The declared type, empty for a column that is calculated. -/
  declared : String
  affinity : Option Affinity
  reach : Reach := .plain

namespace Heading

/-- A column answers to a name, on its own or with names before it. -/
def answersTo (h : Heading) (path : List String) : Bool :=
  match path with
  | [c] => (h.reach = .plain || h.reach = .standing) && sameName h.name c
  | [o, c] => h.reach ≠ .rowNumber && h.owners.any (sameName o) && sameName h.name c
  | [d, o, c] =>
    h.stored && sameName d "main" && h.reach ≠ .rowNumber && h.owners.any (sameName o) &&
      sameName h.name c
  | _ => false

/-- A number of a row answers to a name. -/
def numbers (h : Heading) (path : List String) : Bool :=
  let named := fun (c : String) => h.reach = .rowNumber && rowNumberNames.contains (capitals c.toList)
  match path with
  | [c] => named c
  | [o, c] => named c && h.owners.any (sameName o)
  | [d, o, c] => named c && h.owners.any (sameName o) && sameName d "main"
  | _ => false

end Heading

/-- What names can mean. -/
structure Scope where
  headings : List Heading
  /-- Results that have other names. -/
  aliases : List (String × Term) := []

namespace Scope

/-- The positions of the headings with a property. -/
def positions (s : Scope) (p : Heading → Bool) : List (Nat × Heading) :=
  (s.headings.zipIdx.filter fun (h, _) => p h).map fun (h, i) => (i, h)

/-- The heading that a name means, if it means one. A name of several columns is ambiguous, unless all
but the first one are joined by name. -/
def find? (s : Scope) (path : List String) : Except Fault (Option (Nat × Heading)) :=
  match s.positions fun h => h.answersTo path with
  | found :: others =>
    if others.all fun (_, h) => h.reach = .qualified then .ok (some found)
    else .error (.ambiguousColumn path)
  | [] => match s.positions fun h => h.numbers path with
    | [found] => .ok (some found)
    | _ => .ok none

def column : Nat × Heading → Term
  | (i, h) => .column i h.affinity

/-- What a name means that no column has. -/
def other (s : Scope) (path : List String) (doubleQuoted : Bool) : Except Fault Term :=
  match path with
  | [c] =>
    match s.aliases.find? fun (a, _) => sameName a c with
    | some (_, t) => .ok t
    | none =>
      if doubleQuoted then .ok (.constant (.text c))
      else if sameName c "true" then .ok (.constant (.integer 1))
      else if sameName c "false" then .ok (.constant (.integer 0))
      else .error (.noColumn path)
  | _ => .error (.noColumn path)

def name (s : Scope) (path : List String) (doubleQuoted : Bool) : Except Fault Term := do
  match ← s.find? path with
  | some found => return column found
  | none => s.other path doubleQuoted

/-- The right side of an operator is looked up first: a single name after IS. -/
def beginsRight (op : PairOp) (b : Expr) : Bool :=
  match b with
  | .name [_] _ => op = .same || op = .different
  | _ => false

/-- Whether an expression is a word for true or false. -/
def truthWord? : Expr → Option Bool
  | .name [c] false =>
    if sameName c "true" then some true else if sameName c "false" then some false else none
  | _ => none

/-- A term that is true, or not true where that is asked for. -/
def isTrue (negated : Bool) (t : Term) : Term :=
  .choice t (.constant (.integer (if negated then 0 else 1)))
    (.constant (.integer (if negated then 1 else 0)))

/-- The term of an expression. After IS, the words for true and false ask what a condition is. -/
def term (s : Scope) : Expr → Except Fault Term
  | .value c => .ok (.constant c)
  | .parameter n => .ok (.parameter n)
  | .name path doubleQuoted => s.name path doubleQuoted
  | .signed op e => return .signed op (← s.term e)
  | .paired op a b => do
    if beginsRight op b then let _ ← s.term b
    let x ← s.term a
    let y ← s.term b
    let asked := if op = .same || op = .different then truthWord? b else none
    match asked, y with
    | some true, .constant _ => return isTrue (op = .different) x
    | some false, .constant _ => return isTrue (op = .different) (.signed .not x)
    | _, _ => return .paired op x y
  | .choice c a b => return .choice (← s.term c) (← s.term a) (← s.term b)
  | .converted e type => return .converted (← s.term e) (.ofDeclared type)
  | .call function => .error (.noFunction function)

end Scope

end NameQuery.Sql
