import NameQuery.Proofs.Sql.Reading
import NameQuery.Proofs.Sql.Refusals
import NameQuery.Sql.Script

/-!
# Pages that a database does not have

The page of a command is the page of the plan that carries it out (`Sql.ensures_action`), and a page
whose numbers need all 64 bits counts no rows (`Sql.rows?_eq_none`). A statement with an offset alone is
not even a command. So a database fails of the text of either (`Sql.fails_rows`), whatever its tables
hold.
-/

set_option autoImplicit false

namespace NameQuery.Sql

/-- A computation that comes to nothing. -/
abbrev Fails {α ε : Type} (x : Except ε α) : Prop := Ensures (fun _ => False) (fun _ => True) x

open Reading (written IsPaged)

variable {o : Outline} {db : Database}

/-! ## Plans -/

/-- The plan of a statement with a page is that page of another plan. -/
def IsPage (limit offset : Nat) (plan : Plan) : Prop :=
  ∃ all, plan = .page (.constant (writtenNumber limit))
    (if offset = 0 then none else some (.constant (writtenNumber offset))) all

/-- A written limit is read as its number, and an offset of zero is not written. -/
theorem terms_written (limit offset : Nat) :
    (written limit offset).terms = .ok (.constant (writtenNumber limit),
      if offset = 0 then none else some (.constant (writtenNumber offset))) := by
  unfold written
  by_cases start : offset = 0
  · rw [if_pos start, if_pos start]
    rfl
  · rw [if_neg start, if_neg start]
    rfl

/-- A selection that can be planned keeps the page that its limit was written for. -/
theorem ensures_planned (r : Relation) (distinct : Bool) (choices : List Choice) (filter? : Option Expr)
    (order : List OrderTerm) (limit offset : Nat) :
    Ensures (fun p => IsPage limit offset p.1) (fun _ => True)
      (Select.planned r distinct choices filter? order (some (written limit offset))) := by
  unfold Select.planned
  refine Ensures.bind (P := fun page? => page? = some (.constant (writtenNumber limit),
      if offset = 0 then none else some (.constant (writtenNumber offset)))) ?_ ?_
  · show Ensures _ _ ((written limit offset).terms.map some)
    rw [terms_written]
    exact .ok rfl
  · rintro _ rfl
    refine Ensures.bind_any fun _ => ?_
    refine Ensures.bind_any fun outputs => ?_
    refine Ensures.bind_any fun condition? => ?_
    refine Ensures.bind_any fun _ => ?_
    refine Ensures.bind_any fun keys => ?_
    exact .ok ⟨_, rfl⟩

/-- What a statement with a page comes to is that page, or a fault. -/
theorem ensures_outcome {s : Select} (paged : IsPaged o s) (next? : Option (CompoundOp × Nat)) :
    Ensures (fun c => IsPage o.limit o.offset c.plan ∨ ∃ why, c.fault = some why) (fun _ => True)
      (s.outcome db next?) := by
  obtain ⟨-, distinct, items, source, filter?, order, rfl⟩ := paged
  unfold Select.outcome
  refine Ensures.bind_any fun r => ?_
  refine Ensures.bind_any fun _ => ?_
  refine Ensures.bind_any fun choices => ?_
  have page := ensures_planned r distinct choices filter? order o.limit o.offset
  dsimp only
  split
  on_goal 1 => refine Ensures.bind_any fun _ => ?_
  -- checked or not, the plan is made in the same way
  all_goals
    split
    · next planned =>
      rw [planned] at page
      exact .ok (.inl page.of_ok)
    · next why planned => exact .ok (.inr ⟨why, rfl⟩)

/-- A command with a page does what the page says. -/
theorem ensures_action {s : Select} (paged : IsPaged o s) :
    Ensures (fun a => IsPage o.limit o.offset a.plan) (fun _ => True)
      (Script.action db (.select s)) := by
  unfold Script.action
  refine Ensures.bind (ensures_outcome paged none) ?_
  rintro c (page | ⟨why, fault⟩)
  · exact Ensures.bind_any fun _ => .ok page
  · rw [fault]
    exact .error trivial

/-! ## Scripts -/

/-- A page of numbers that count no rows is none. -/
theorem rows?_eq_none {limit offset : Nat} {plan : Plan} (page : IsPage limit offset plan)
    (positive : limit ≠ 0) (large : 9_223_372_036_854_775_807 < max limit offset)
    (hl : limit < 2 ^ 64) (ho : offset < 2 ^ 64) (bound : Nat → Cell) : plan.rows? bound = none := by
  obtain ⟨all, rfl⟩ := page
  have number : (Term.constant (writtenNumber limit)).value bound [] = writtenNumber limit := rfl
  have start : (if offset = 0 then none else some (Term.constant (writtenNumber offset))).map
      (fun t => t.value bound []) = if offset = 0 then none else some (writtenNumber offset) := by
    split <;> rfl
  rw [Plan.rows?]
  cases all.rows? bound with
  | none => rfl
  | some rows =>
    rw [Option.bind_eq_bind, Option.bind_some, number, start]
    exact paged?_writtenNumber positive large hl ho rows

/-- A script fails of one plain statement with an offset alone, or with a number that needs all 64
bits. -/
theorem fails_rowsOf (plain : o.IsPlain)
    (wrong : (o.limit = 0 ∧ o.offset ≠ 0) ∨ 9_223_372_036_854_775_807 < max o.limit o.offset)
    (hl : o.limit < 2 ^ 64) (ho : o.offset < 2 ^ 64) (values : List Cell) (fuel used : Nat) :
    Fails (Script.rowsOf values (fuel + 1) db used o.tokens) := by
  have numbers : o.limit ≠ 0 ∨ o.offset ≠ 0 := by omega
  have some_ : o.tokens.isEmpty = false := rfl
  rw [Script.rowsOf, some_, if_neg Bool.false_ne_true]
  refine Ensures.bind (Ensures.mapError (Reading.reads_command plain numbers)) ?_
  rintro ⟨_, _⟩ ⟨rfl, s, rfl, paged⟩
  have nothing : ∀ (bound : Nat → Cell) plan, IsPage o.limit o.offset plan →
      plan.rows? bound = none := by
    intro bound plan page
    have positive := paged.1
    exact rows?_eq_none page positive (by omega) hl ho bound
  dsimp only
  split
  on_goal 1 => refine Ensures.bind_any fun _ => ?_
  -- a file that is a database or not, the statement is carried out in the same way
  all_goals
    refine Ensures.bind (Ensures.mapError (ensures_action paged)) fun action page => ?_
    refine Ensures.bind_any ?_
    rintro ⟨cells, used⟩
    dsimp only
    rw [nothing _ _ page]
    exact .error trivial

/-- A database fails of the text of such a statement. -/
theorem fails_rows {r : Name.Recorded} {table : String} {limit offset : UInt64}
    (plain : ∀ conditions : List Comparison, conditions.map Comparison.field = r.predicates →
      (Outline.ofRecorded r table limit offset conditions).IsPlain)
    (wrong : (limit = 0 ∧ offset ≠ 0) ∨ 9_223_372_036_854_775_807 < max limit.toNat offset.toNat)
    (style : Placeholder) (values : List Cell) :
    Fails (Script.rows db values ((r.statement table limit offset).text style)) := by
  have zero : ∀ n : UInt64, n.toNat = 0 ↔ n = 0 := fun n => UInt64.toNat_inj (b := 0)
  have numbers : limit ≠ 0 ∨ offset ≠ 0 := by
    rw [Ne, Ne, ← zero, ← zero]
    rw [← zero, Ne, ← zero] at wrong
    omega
  obtain ⟨conditions, fields, tokens⟩ := Outline.exists_tokens style
    (plain _ (Comparison.map_field_ofFields style 1 r.predicates)) numbers
  have wrong_ : (limit.toNat = 0 ∧ offset.toNat ≠ 0) ∨
      9_223_372_036_854_775_807 < max limit.toNat offset.toNat := by
    rwa [zero, Ne, zero]
  rw [Script.rows, tokens]
  exact fails_rowsOf (plain conditions fields) wrong_ limit.toNat_lt offset.toNat_lt values _ 0

end NameQuery.Sql
