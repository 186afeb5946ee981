import NameQuery.Sql.Relation

/-!
# From a statement to a plan

How the names of a SELECT statement are looked up in a database, and which plan it becomes
(`Select.outcome`). What is decided here is what a statement can fail at and in which order. All
tables are found first, inside out, and the stars are filled in; of statements that are put together
the last one is looked at first. Then the names are looked up: in the numbers of the page, in the
statements among the sources, in the results, the condition, the joins and the order.

A result is named by its other name, by the column that it is, or by its text, and only a result that
is a column has a declared type.
-/

set_option autoImplicit false

namespace NameQuery.Sql

/-! ## Results -/

structure Output where
  name : String
  /-- The name of the result as a column of a source, where the name of a column counts as it is
  written. -/
  label : String
  /-- The result has its name from the statement, not from its own text. -/
  named : Bool
  /-- Empty for what is no column. -/
  declared : String
  term : Term

/-- What an item stands for. -/
inductive Choice
  /-- A column of the source, by the path that a star writes for it. -/
  | column (position : Nat) (heading : Heading) (path : List String)
  | expr (e : Expr) (alias? : Option String) (text : String)

namespace Choice

def label : Choice → String
  | .column _ h _ => h.name
  | .expr e alias? text =>
    alias?.getD (match e with
      | .name path _ => path.getLastD text
      | _ => text)

/-- The result of a choice. The column of a star has to be the only one of its path. -/
def output (s : Scope) (c : Choice) : Except Fault Output :=
  match c with
  | .column i h path => do
    let _ ← s.find? path
    return ⟨h.name, c.label, true, h.declared, Scope.column (i, h)⟩
  | .expr e alias? text => do
    let found ← match e with
      | .name path _ => s.find? path
      | _ => pure none
    match found with
    | some (i, h) =>
      return ⟨alias?.getD h.name, c.label, alias?.isSome, h.declared, Scope.column (i, h)⟩
    | none => return ⟨alias?.getD text, c.label, alias?.isSome, "", ← s.term e⟩

/-- A result of which only the name is known. -/
def blank (c : Choice) : Output := ⟨c.label, c.label, false, "", .constant .null⟩

end Choice

namespace Output

/-- The result that a name means among others: the first one of that name. -/
def position? (outputs : List Output) : Expr → Option Nat
  | .name [c] _ => outputs.findIdx? fun o => o.named && sameName o.name c
  | _ => none

end Output

namespace Item

/-- The path that a star writes for a column: all its names if there are several sources. -/
def starPath (sources : Nat) (h : Heading) : List String :=
  match h.owners, h.reach with
  | owner :: _, .plain =>
    if sources ≤ 1 then [h.name] else [if h.stored then "main" else "*", owner, h.name]
  | _, _ => []

/-- The columns that a star stands for. -/
def starred (r : Relation) : List Choice :=
  r.headings.zipIdx.filterMap fun (h, i) =>
    match h.reach with
    | .plain => some (.column i h (starPath r.sources h))
    | .replaced k => (r.headings[k]?).map fun h => .column k h []
    | _ => none

/-- The columns that a star after a name stands for. -/
def starredOf (r : Relation) (table : String) : List Choice :=
  (r.headings.zipIdx.filter fun (h, _) => h.owners.any (sameName table) && h.reach ≠ .rowNumber).map
    fun (h, i) => .column i h (starPath r.sources { h with reach := .plain })

def expanded (r : Relation) : Item → Except Fault (List Choice)
  | .all => if r.sources = 0 then .error .noSource else .ok (starred r)
  | .allOf table =>
    let own := starredOf r table
    if own.isEmpty then .error (.noTable [table]) else .ok own
  | .expr e alias? text => .ok [.expr e alias? text]

/-- What items stand for. Of several stars for which there is nothing the last one counts. -/
def choices (r : Relation) (items : List Item) : Except Fault (List Choice) := do
  let _ ← items.reverse.mapM (expanded r)
  return (← items.mapM (expanded r)).flatten

end Item

/-! ## Orders -/

/-- The most results and the most terms of an order. -/
def mostColumns : Nat := 2000

namespace OrderTerm

/-- The whole number that an expression is by itself, below 2³¹. -/
def number? : Expr → Option Int
  | .value (.integer n) => if n.natAbs < 2_147_483_648 then some n else none
  | .signed .plus e => number? e
  | .signed .minus e => (number? e).map fun n => -n
  | _ => none

/-- The term of an order that is the `i`-th one: the number of a result, or an expression. -/
def resolved (s : Scope) (outputs : List Output) (e : Expr) (i : Nat) : Except Fault (Sum Nat Term) :=
  match Output.position? outputs e with
  | some k => .ok (.inl (k + 1))
  | none =>
    match number? e with
    | some n =>
      if n < 1 || 65_535 < n then .error (.orderOutOfRange i outputs.length) else .ok (.inl n.toNat)
    | none => (s.term e).map .inr

def keys (s : Scope) (outputs : List Output) (order : List OrderTerm) :
    Except Fault (List SortKey) := do
  let resolved ← order.zipIdx.mapM fun (t, i) => resolved s outputs t.expr (i + 1)
  if mostColumns < order.length then throw .tooManyOrderTerms
  ((order.zip resolved).zipIdx).mapM fun ((t, r), i) =>
    match r with
    | .inr term => .ok ⟨term, t.descending⟩
    | .inl n =>
      match outputs[n - 1]? with
      | some o => .ok ⟨o.term, t.descending⟩
      | none => .error (.orderOutOfRange (i + 1) outputs.length)

/-- The number of a term that counts to no result, where it is one. -/
def checkRange (results : Nat) (e : Expr) (i : Nat) : Except Fault Unit :=
  match number? e with
  | some n => if n < 1 || (results : Int) < n then .error (.orderOutOfRange i results) else .ok ()
  | none => .ok ()

/-- The result of statements put together that a term means: a number, or what one of the statements
selects. -/
def meant? (members : List (Scope × List Output)) (e : Expr) : Option Nat :=
  match number? e with
  | some n => some (n.toNat - 1)
  | none => members.findSome? fun (s, outputs) =>
    match Output.position? outputs e with
    | some k => some k
    | none =>
      match s.term e with
      | .ok t => outputs.findIdx? fun o => o.term = t
      | .error _ => none

/-- The sort keys of statements put together that have so many results each. -/
def commonKeys (members : List (Scope × List Output)) (results : Nat) (order : List OrderTerm) :
    Except Fault (List SortKey) := do
  if mostColumns < order.length then throw .tooManyOrderTerms
  let _ ← order.zipIdx.mapM fun (t, i) => checkRange results t.expr (i + 1)
  order.zipIdx.mapM fun (t, i) =>
    match meant? members t.expr with
    | some k => .ok ⟨.column k none, t.descending⟩
    | none => .error (.unmatchedOrder (i + 1))

end OrderTerm

/-! ## Statements -/

/-- What a statement comes to. -/
structure Outcome where
  plan : Plan
  /-- The results, with what names mean where they are found, for each of the statements that are put
  together, the first one first. -/
  members : List (Scope × List Output)
  /-- A name that means nothing. -/
  fault : Option Fault := none

namespace Outcome

/-- The results of a statement are those of its first part. -/
def outputs (o : Outcome) : List Output := (o.members.head?.map (·.2)).getD []

/-- A name that differs from those in use: the name itself, or with a number after it. The fuel is a
number of attempts. -/
def freshName (used : List String) (name : String) : Nat → Nat → String
  | 0, _ => name
  | fuel + 1, n =>
    let candidate := if n = 0 then name else s!"{name}:{n}"
    if used.any (sameName candidate) then freshName used name fuel (n + 1) else candidate

def headings (owner : Option String) (used : List String) : List Output → List Heading
  | [] => []
  | o :: os =>
    let plain := if sameName o.label "true" || sameName o.label "false" then
      s!"column{used.length + 1}" else o.label
    let name := freshName used plain (used.length + 1) 0
    ⟨owner.toList, false, name, o.declared, o.term.affinity, .plain⟩ ::
      headings owner (used ++ [name]) os

/-- The declared types of the results as a source are those of the last one of the statements. -/
def declared (o : Outcome) : List String :=
  ((o.members.getLast?.map (·.2)).getD []).map Output.declared

/-- What a statement comes to as a source of rows. -/
def relation (o : Outcome) (alias? : Option String) : Relation :=
  let columns := List.zipWith (fun h d => { h with declared := d })
    (headings alias? [] o.outputs) (o.declared ++ List.replicate o.outputs.length "")
  ⟨columns, o.plan, 1, { inner := o.fault }⟩

end Outcome

/-- The terms of a page. They know no columns. -/
def Paging.terms (p : Paging) : Except Fault (Term × Option Term) := do
  let limit ← (Scope.mk [] []).term p.limit
  let offset? ← p.offset?.mapM (Scope.mk [] []).term
  return (limit, offset?)

def Plan.paged (p : Plan) : Option (Term × Option Term) → Plan
  | none => p
  | some (limit, offset?) => .page limit offset? p

/-- Statements that are put together select equally many results. -/
def checkWidth (width : Nat) : Option (CompoundOp × Nat) → Except Fault Unit
  | none => .ok ()
  | some (op, next) =>
    if width = next then .ok ()
    else .error (.differentWidths op)

/-- The plan of a statement over a source, with its results and what names mean in it. -/
def Select.planned (r : Relation) (distinct : Bool) (choices : List Choice) (filter? : Option Expr)
    (order : List OrderTerm) (paging? : Option Paging) :
    Except Fault (Plan × Scope × List Output) := do
  let page? ← paging?.mapM Paging.terms
  Fault.raise r.faults.inner
  let outputs ← choices.mapM (Choice.output ⟨r.headings, []⟩)
  let scope : Scope := ⟨r.headings, (outputs.filter Output.named).map fun o => (o.name, o.term)⟩
  let condition? ← filter?.mapM scope.term
  Fault.raise r.faults.condition
  let keys ← OrderTerm.keys scope outputs order
  let rows := match condition? with
    | some t => .filter t r.plan
    | none => r.plan
  return ((Plan.select distinct (outputs.map Output.term) keys rows).paged page?, scope, outputs)

/-- The plan of two statements that are put together. -/
def Select.plannedPair (op : CompoundOp) (left right : Outcome) (order : List OrderTerm)
    (paging? : Option Paging) : Except Fault Plan := do
  let page? ← paging?.mapM Paging.terms
  Fault.raise right.fault
  Fault.raise left.fault
  let n := left.outputs.length
  let plan := Plan.combined op left.plan right.plan
  if order.isEmpty then return plan.paged page?
  let keys ← OrderTerm.commonKeys (left.members ++ right.members) n order
  let columns := (List.range n).map fun i => Term.column i none
  return (Plan.select false columns keys plan).paged page?

mutual
def Source.relation (db : Database) : Source → Except Fault Relation
  | .nothing => .ok .unit
  | .table path alias? use => Relation.ofPath db path alias? use
  | .select s alias? => do return (← s.outcome db none).relation alias?
  | .group s alias? => do
    let r ← s.relation db
    let (_, fault) := Fault.orFault [] ((Item.starred r).mapM (Choice.output ⟨r.headings, []⟩))
    r.bracketed alias? fault
  | .join left right kind on? written => do
    let l ← left.relation db
    return l.join (← right.relation db) kind on? written

/-- What a statement comes to, where another one with so many results may follow it. -/
def Select.outcome (db : Database) (next? : Option (CompoundOp × Nat)) :
    Select → Except Fault Outcome
  | .simple distinct items source filter? order paging? => do
    let r ← source.relation db
    Fault.raise r.faults.shape
    let choices ← Item.choices r items
    if mostColumns < choices.length then throw .tooManyResults
    match Select.planned r distinct choices filter? order paging? with
    | .ok (plan, scope, outputs) =>
      return ⟨plan, [(scope, outputs)], (Fault.orFault () (checkWidth outputs.length next?)).2⟩
    | .error why => return ⟨.rows [], [(⟨[], []⟩, choices.map Choice.blank)], why⟩
  | .compound op left right order paging? => do
    let r ← right.outcome db next?
    let l ← left.outcome db (some (op, r.outputs.length))
    let (plan, fault) := Fault.orFault (.rows []) (Select.plannedPair op l r order paging?)
    return ⟨plan, l.members ++ r.members, fault⟩
end

end NameQuery.Sql
