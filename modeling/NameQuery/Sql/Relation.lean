import NameQuery.Sql.Database
import NameQuery.Sql.Plan
import NameQuery.Sql.Scope

/-!
# Relations

What a source of a statement is once its tables were found: the headings of its columns and the plan
of its rows. Tables are found before any name is looked up in them, and sources are found before they
are joined, so the faults of a source that count only later are kept with it (`Faults`).

Columns that are joined by name are one column, which is reached by its name alone.
-/

set_option autoImplicit false

namespace NameQuery.Sql

/-- Faults that do not count yet. -/
structure Faults where
  /-- Sources that cannot be joined. -/
  shape : Option Fault := none
  /-- A statement among the sources that cannot be carried out. -/
  inner : Option Fault := none
  /-- A condition of a join that means nothing. -/
  condition : Option Fault := none

namespace Faults

/-- The faults of two sources, the first one of each kind. -/
def and (a b : Faults) : Faults :=
  ⟨a.shape.or b.shape, a.inner.or b.inner, a.condition.or b.condition⟩

end Faults

/-- A source of rows. -/
structure Relation where
  headings : List Heading
  plan : Plan
  /-- The number of sources that are joined in it. -/
  sources : Nat
  faults : Faults := {}

namespace Relation

def unit : Relation := ⟨[], .rows [[]], 0, {}⟩

/-- A table with the number of each row as one more column. -/
def ofTable (t : Table) (owner : String) : Relation where
  headings :=
    (t.columns.map fun c => ⟨[owner], true, c.name, c.declared, some c.affinity, .plain⟩) ++
    [⟨[owner], true, "rowid", "INTEGER", some .integer, .rowNumber⟩]
  plan := .rows t.numberedRows
  sources := 1

/-- The table of a path, in the use that a statement makes of it. -/
def ofPath (db : Database) (path : List String) (alias? : Option String) (use : TableUse) :
    Except Fault Relation := do
  let some t := db.tableAt? path | throw (.noTable path)
  match use with
  | .plain => return ofTable t (alias?.getD t.name)
  | .indexed index => throw (.noIndex index)
  | .called => throw (.calledTable (path.getLastD t.name))

/-- Sources in brackets, with a name for all of them, and the fault of their columns together. What is
wrong inside counts before what stands outside. -/
def bracketed (r : Relation) (alias? : Option String) (fault? : Option Fault) :
    Except Fault Relation := do
  Fault.raise r.faults.shape
  return { r with
    headings := r.headings.map fun h => { h with owners := h.owners ++ alias?.toList }
    sources := 1
    faults := { inner := r.faults.inner.or (fault?.or r.faults.condition) } }

/-! ## Joins -/

/-- A heading that stands `n` places further on. -/
def moved (n : Nat) (h : Heading) : Heading :=
  match h.reach with
  | .replaced k => { h with reach := .replaced (n + k) }
  | _ => h

/-- Headings of which the one at position `old` is no longer reached alone, but the one at `new`. -/
def redirected (old new : Nat) (hs : List Heading) : List Heading :=
  hs.zipIdx.map fun (h, i) =>
    if i = old then { h with reach := if h.reach = .plain then .replaced new else .qualified }
    else if h.reach = .replaced old then { h with reach := .replaced new }
    else h

/-- Headings with another reach at one position. -/
def reaching (i : Nat) (reach : Reach) (hs : List Heading) : List Heading :=
  hs.modify i fun h => { h with reach := reach }

/-- A column of both sides of a join: its name and its two positions. -/
structure Shared where
  name : String
  left : Nat
  right : Nat

/-- Headings of a join and the terms of further columns, with one more column that both sides share.
The left column stands for both if its rows are kept, the right one if only its own are, and a further
column, which has no type, if all rows are kept. -/
def merged (kind : JoinKind) (hs : List Heading × List Term) (s : Shared) : List Heading × List Term :=
  let (hs, extra) := hs
  if !kind.keepsRight then (reaching s.right .qualified hs, extra)
  else if !kind.keepsLeft then (redirected s.left s.right (reaching s.right .standing hs), extra)
  else
    let affinity := fun (i : Nat) => (hs[i]?).bind Heading.affinity
    (redirected s.left hs.length (reaching s.right .qualified hs) ++
        [⟨[], false, s.name, "", none, .standing⟩],
      extra ++ [.orElse (.column s.left (affinity s.left)) (.column s.right (affinity s.right))])

/-- The columns that a join takes from both sides: those that are written, or in a natural join all
that have a name in common. -/
def shared (left right : List Heading) (kind : JoinKind) (on? : Option Expr) (written : List String) :
    Except Fault (List Shared) := do
  let position? := fun (hs : List Heading) (c : String) => hs.findIdx? fun h => h.answersTo [c]
  let common := (right.filter fun h => h.answersTo [h.name] && (position? left h.name).isSome).map
    Heading.name
  if kind.natural && (on?.isSome || !written.isEmpty) then
    throw .overdeterminedJoin
  (if kind.natural then common else written).mapM fun c =>
    match position? left c, position? right c with
    | some i, some j => .ok ⟨c, i, left.length + j⟩
    | _, _ => .error (.notShared c)

def join (left right : Relation) (kind : JoinKind) (on? : Option Expr) (written : List String) :
    Relation :=
  let (m, n) := (left.headings.length, right.headings.length)
  let all := left.headings ++ right.headings.map (moved m)
  let (columns, shape) := Fault.orFault [] (shared left.headings right.headings kind on? written)
  let column := fun (i : Nat) => Term.column i ((all[i]?).bind Heading.affinity)
  let equal := columns.map fun s => Term.paired .equal (column s.left) (column s.right)
  let (met, condition) := Fault.orFault [] (on?.toList.mapM (Scope.mk all []).term)
  let plan := Plan.join left.plan right.plan m n kind.keepsLeft kind.keepsRight (equal ++ met)
  let (hs, extra) := columns.foldl (merged kind) (all, [])
  { headings := hs
    plan := if extra.isEmpty then plan
      else .select false ((List.range (m + n)).map column ++ extra) [] plan
    sources := left.sources + right.sources
    faults := (left.faults.and right.faults).and { shape, condition } }

end Relation

end NameQuery.Sql
