import NameQuery.Proofs.Result
import NameQuery.Proofs.Sql.Gate
import NameQuery.Sql.Answer

/-!
# How a database refuses

Whatever text is put to a database, it can refuse it for many reasons: a text that is no statement,
a name that means nothing, a parameter without a value, a number that counts no rows, a column of a
type that cannot be read. All of these are one kind of failure, that a query cannot be carried out
(`Failure.IsRefusal`, `Sql.Database.ensures_answer`). So a database never reports what is settled
before it is asked, such as a wrong number of values.
-/

set_option autoImplicit false

namespace NameQuery

/-- A query cannot be carried out. -/
def Failure.IsRefusal (why : Failure) : Prop := ∃ reason, why = .execution reason

/-- A computation that fails only because a query cannot be carried out. -/
abbrev Refuses {α : Type} (x : Except Failure α) : Prop :=
  Ensures (fun _ => True) Failure.IsRefusal x

theorem Refuses.refused {α : Type} (reason : String) : Refuses (α := α) (.error (.execution reason)) :=
  .error ⟨reason, rfl⟩

namespace Sql

theorem refuses_mapError {α ε : Type} (x : Except ε α) (code : Nat) (message : ε → String) :
    Refuses (x.mapError fun e => refusal code (message e)) := by
  cases x with
  | ok a => exact .ok trivial
  | error e => exact .error ⟨_, rfl⟩

theorem ColumnType.refuses_read (column : String) (type : ColumnType) (cell : Cell) :
    Refuses (type.read column cell) := by
  unfold read
  split
  case h_4 => exact Refuses.refused _
  all_goals exact .ok trivial

theorem Row.refuses_record (row : Row) : Refuses row.record := by
  unfold record
  refine Ensures.bind (Ensures.mapM fun cell _ => ?_) fun _ _ => .pure trivial
  exact Ensures.bind (ColumnType.refuses_read _ _ _) fun _ _ => .pure trivial

namespace Script

theorem refuses_wanted (text : List Char) : Refuses (wanted text) := by
  unfold wanted
  split
  · exact .ok trivial
  · dsimp only
    split
    · exact Refuses.refused _
    · exact .ok trivial
  · exact Refuses.refused _

theorem refuses_bound (values : List Cell) (names : List (Nat × List Char)) (ns : List Nat)
    (used : Nat) : Refuses (bound values names ns used) := by
  induction ns generalizing used with
  | nil => exact .ok trivial
  | cons n ns ih =>
    unfold bound
    split
    on_goal 1 => refine Ensures.bind (refuses_wanted _) fun want _ => ?_
    -- with a name or without one, what is left is to look the value up
    all_goals
      dsimp only
      refine Ensures.bind (P := fun _ => True) (.pure trivial) fun next _ => ?_
      split
      · exact .pure trivial
      · exact Ensures.bind (ih _) fun _ _ => .pure trivial

/-- Statements in turn are refused as each one can be. -/
theorem refuses_rowsOf (values : List Cell) (fuel : Nat) (db : Database) (used : Nat)
    (ts : List Token) : Refuses (rowsOf values fuel db used ts) := by
  -- on the number of statements, since the ones after a statement see what it changed
  induction fuel generalizing db used ts with
  | zero => exact .ok trivial
  | succ fuel ih =>
    unfold rowsOf
    split
    · exact .pure trivial
    · refine Ensures.bind (refuses_mapError _ _ _) ?_
      rintro ⟨command, rest⟩ -
      dsimp only
      split
      · exact ih db used rest
      · split
        · exact Refuses.refused _
        · refine Ensures.bind (refuses_mapError _ _ _) fun action _ => ?_
          refine Ensures.bind (refuses_bound _ _ _ _) ?_
          rintro ⟨cells, used⟩ -
          dsimp only
          split
          · exact Refuses.refused _
          · exact Ensures.bind (ih _ _ _) fun _ _ => .pure trivial

end Script

/-- **A database refuses a statement in one way**: what it does not answer cannot be carried out. -/
theorem Database.refuses_answer (db : Database) (style : Placeholder) (s : Statement)
    (values : List Cell) : Refuses (db.answer style s values) := by
  unfold answer
  refine Ensures.bind (P := fun _ => True) ?_ fun rows _ => .mapM fun row _ => Row.refuses_record row
  unfold rows
  split
  · exact .ok trivial
  · exact Script.refuses_rowsOf _ _ _ _ _

end Sql

/-- A query without a statement is refused in the same way. -/
theorem Statement.refuses_ofQuery (q : Query) (table : String) : Refuses (ofQuery q table) := by
  unfold ofQuery
  refine Ensures.bind (P := fun _ => True) ?_ fun _ _ => .ok trivial
  cases checked : check q with
  | ok => exact .ok trivial
  | error why =>
    obtain ⟨clause, field, -, rfl⟩ := check_eq_error checked
    exact Refuses.refused _

end NameQuery
