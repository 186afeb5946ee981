import NameQuery.Sql.Term

/-!
# Plans

A SELECT statement whose names have been looked up is a plan: how its rows come from the rows of
tables (`Plan.rows?`). What is decided here is which rows there are and in which order. Rows are
joined in the order of the left side; a side that keeps its rows fills those without a partner up
with nulls. Equal rows count as one where a plan asks for distinct rows, and so they do in a union,
a difference and an intersection, whose rows come in ascending order. Sorting keeps the order of
rows whose keys are equal.

A number of rows that is no whole number is the one thing that can go wrong.
-/

set_option autoImplicit false

namespace NameQuery.Sql

structure SortKey where
  term : Term
  descending : Bool

/-- How rows come from the rows of tables. -/
inductive Plan
  | rows (all : List (List Cell))
  /-- Pairs of rows, of so many cells each, that conditions hold on. -/
  | join (left right : Plan) (leftWidth rightWidth : Nat) (keepsLeft keepsRight : Bool)
    (conditions : List Term)
  | filter (condition : Term) (p : Plan)
  /-- Rows of terms, distinct ones or all, sorted by keys of the same row. -/
  | select (distinct : Bool) (outputs : List Term) (keys : List SortKey) (p : Plan)
  | combined (op : CompoundOp) (left right : Plan)
  /-- So many rows, after so many that are passed over. -/
  | page (limit : Term) (offset : Option Term) (p : Plan)

namespace Plan

/-! ## Rows -/

def rowOrder : List Cell → List Cell → Ordering
  | a :: as, b :: bs => (a.order b).then (rowOrder as bs)
  | [], [] => .eq
  | [], _ => .lt
  | _, [] => .gt

/-- Two rows with equal cells. -/
def sameRow (a b : List Cell) : Bool := rowOrder a b = .eq

/-- The members of a list whose rows differ from the rows of all members before them and from those
in `seen`. -/
def distinctBy {α : Type} (row : α → List Cell) (seen : List (List Cell)) : List α → List α
  | [] => []
  | x :: xs =>
    if seen.any (sameRow (row x)) then distinctBy row seen xs
    else x :: distinctBy row (row x :: seen) xs

/-- Rows in ascending order. -/
def ascending (rs : List (List Cell)) : List (List Cell) := rs.mergeSort fun a b => (rowOrder a b).isLE

def combine (op : CompoundOp) (left right : List (List Cell)) : List (List Cell) :=
  match op with
  | .unionAll => left ++ right
  | .union => ascending (distinctBy id [] (left ++ right))
  | .except => ascending (distinctBy id [] (left.filter fun r => !right.any (sameRow r)))
  | .intersect => ascending (distinctBy id [] (left.filter fun r => right.any (sameRow r)))

/-- The order of two rows of keys, each ascending or not. -/
def keyOrder : List Bool → List Cell → List Cell → Ordering
  | descending :: ds, a :: as, b :: bs =>
    (if descending then (a.order b).swap else a.order b).then (keyOrder ds as bs)
  | _, _, _ => .eq

/-- Rows after the values of their keys, sorted. -/
def sorted (directions : List Bool) (rs : List (List Cell × List Cell)) :
    List (List Cell × List Cell) :=
  rs.mergeSort fun a b => (keyOrder directions a.1 b.1).isLE

def joined (leftWidth rightWidth : Nat) (keepsLeft keepsRight : Bool)
    (meets : List Cell → Bool) (left right : List (List Cell)) : List (List Cell) :=
  let pairs := left.flatMap fun l =>
    match (right.map (l ++ ·)).filter meets with
    | [] => if keepsLeft then [l ++ List.replicate rightWidth .null] else []
    | found => found
  let alone := right.filter fun r => keepsRight && !left.any fun l => meets (l ++ r)
  pairs ++ alone.map (List.replicate leftWidth .null ++ ·)

/-- A number of rows, where a cell is one. -/
def count? (c : Cell) : Option Int :=
  match Affinity.numeric.store c with
  | .integer n => some n
  | _ => none

/-- The rows of a page. A limit below zero is none, and an offset below zero passes over nothing. -/
def paged? (limit : Cell) (offset : Option Cell) (rs : List (List Cell)) :
    Option (List (List Cell)) := do
  let n ← count? limit
  if n = 0 then return []
  let m ← match offset with
    | none => some 0
    | some c => count? c
  let rest := rs.drop m.toNat
  return if n < 0 then rest else rest.take n.toNat

/-- The rows of a plan, under the cells that are bound to parameters. -/
def rows? (bound : Nat → Cell) : Plan → Option (List (List Cell))
  | .rows all => some all
  | .join left right leftWidth rightWidth keepsLeft keepsRight conditions => do
    let ls ← left.rows? bound
    let rs ← right.rows? bound
    return joined leftWidth rightWidth keepsLeft keepsRight
      (fun row => conditions.all fun t => t.holds bound row) ls rs
  | .filter condition p => do
    return (← p.rows? bound).filter fun row => condition.holds bound row
  | .select distinct outputs keys p => do
    let all := (← p.rows? bound).map fun row =>
      (keys.map fun k => k.term.value bound row, outputs.map fun t => t.value bound row)
    let kept := if distinct then distinctBy Prod.snd [] all else all
    return (sorted (keys.map SortKey.descending) kept).map (·.2)
  | .combined op left right => do
    let ls ← left.rows? bound
    return combine op ls (← right.rows? bound)
  | .page limit offset p => do
    let rs ← p.rows? bound
    paged? (limit.value bound []) (offset.map fun t => t.value bound []) rs

end Plan

end NameQuery.Sql
