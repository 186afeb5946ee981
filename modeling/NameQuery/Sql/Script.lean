import NameQuery.Sql.Grammar.Command
import NameQuery.Sql.Selection
import NameQuery.Text.Blank

/-!
# Scripts

A text of statements that are carried out one after the other on a database (`Script.rows`), each one
after it was read, looked up and given its values. What is decided here is which value a parameter
gets: one without a name the next value, over all statements, and one with a number the value of that
number. A parameter for which there is no value is null. What a statement changes is seen by those
after it, and the rows of all statements make one list.
-/

set_option autoImplicit false

namespace NameQuery.Sql

/-- A message of the database, with its number. -/
def refusal (code : Nat) (message : String) : Failure :=
  .execution s!"error returned from database: (code: {code}) {message}"

namespace Script

/-! ## Parameters -/

/-- The parameters of a statement with names or numbers, by their numbers. -/
def named (ts : List Token) : List (Nat × List Char) :=
  ts.filterMap fun t =>
    match t.kind with
    | .parameter n => if t.text = ['?'] then none else some (n, t.text)
    | _ => none

/-- The number of the last parameter of a statement. -/
def lastParameter (ts : List Token) : Nat :=
  ts.foldl (fun n t => match t.kind with
    | .parameter m => max n m
    | _ => n) 0

/-- A parameter that no value can be given to. -/
def unbindable (message : String) : Failure :=
  .execution s!"encountered unexpected or invalid data: {message}"

/-- The number of the value that a parameter of the given text takes. -/
def wanted (text : List Char) : Except Failure Nat :=
  match text with
  | '?' :: digits => .ok (digitsValue digits)
  | '$' :: name =>
    let digits := name.takeWhile Char.isDigit
    if digits.isEmpty then
      .error (unbindable
        s!"parameters with non-integer names are not currently supported: {String.ofList name}")
    else .ok (digitsValue digits)
  | _ => .error (unbindable s!"unsupported SQL parameter format: {String.ofList text}")

/-- The cells of parameters, and the number of values that are used up after them. From the first
parameter without a value on, all are null. -/
def bound (values : List Cell) (names : List (Nat × List Char)) :
    List Nat → Nat → Except Failure (List Cell × Nat)
  | [], used => .ok ([], used)
  | n :: ns, used => do
    let (want, used) ← match names.lookup n with
      | some text => pure (← wanted text, used)
      | none => pure (used + 1, used + 1)
    match if want = 0 then none else values[want - 1]? with
    | none => return ([], used)
    | some c =>
      let (cells, used) ← bound values names ns used
      return (c :: cells, used)

/-- The cell of a parameter among those that have one. -/
def cellOf (cells : List Cell) (n : Nat) : Cell := if n = 0 then .null else (cells[n - 1]?).getD .null

/-! ## Statements -/

/-- What a statement does, its names looked up: rows with their columns, and what becomes of the
database. -/
structure Action where
  columns : List Column := []
  plan : Plan := .rows []
  /-- The database afterwards. -/
  database : (Nat → Cell) → Database

def action (db : Database) : Command → Except Fault Action
  | .nothing => .ok { database := fun _ => db }
  | .select s => do
    let o ← s.outcome db none
    Fault.raise o.fault
    return ⟨o.outputs.map fun o => ⟨o.name, o.declared⟩, o.plan, fun _ => db⟩
  | .drop path ifExists =>
    match db.index? path with
    | some i => .ok { database := fun _ => { db with tables := db.tables.eraseIdx i } }
    | none =>
      if ifExists then .ok { database := fun _ => db }
      else .error (.noTable path)
  | .delete path filter? => do
    let some i := db.index? path | throw (.noTable path)
    let r ← Relation.ofPath db path none .plain
    let condition? ← filter?.mapM (Scope.mk r.headings []).term
    let stays := fun (bound : Nat → Cell) (row : List Cell) =>
      match condition? with
      | none => false
      | some t => !t.holds bound row
    return { database := fun bound =>
      { db with tables := db.tables.modify i fun t =>
        { t with rows := (t.rows.zip t.numberedRows).filterMap fun (row, cells) =>
            if stays bound cells then some row else none } } }

/-- The rows of the statements in some tokens, after so many values were used up. The fuel is a number
of statements. -/
def rowsOf (values : List Cell) : Nat → Database → Nat → List Token → Except Failure (List Row)
  | 0, _, _, _ => .ok []
  | fuel + 1, db, used, ts => do
    if ts.isEmpty then return []
    let (command, rest) ← (Reading.command ts).mapError fun r => refusal 1 r.message
    match command with
    | .nothing => rowsOf values fuel db used rest
    | command =>
      if db.foreign then throw (refusal 26 "file is not a database")
      let action ← (action db command).mapError fun why => refusal 1 why.message
      let own := ts.take (ts.length - rest.length)
      let (cells, used) ← bound values (named own) ((List.range (lastParameter own)).map (· + 1)) used
      match action.plan.rows? (cellOf cells) with
      | none => throw (refusal 20 "datatype mismatch")
      | some rows =>
        let others ← rowsOf values fuel (action.database (cellOf cells)) used rest
        return rows.map (action.columns.zip ·) ++ others

/-- The rows that a text of statements answers, under the values for its parameters. The blanks
around the text do not belong to it. -/
def rows (db : Database) (values : List Cell) (text : String) : Except Failure (List Row) :=
  let ts := Token.ofText (String.ofList (Text.trimmed text.toList))
  rowsOf values ts.length db 0 ts

end Script

end NameQuery.Sql
