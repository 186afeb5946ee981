import NameQuery.Proofs.Backend.Agreement
import NameQuery.Proofs.Sql.Refusals

/-!
# How many values a name takes

The query of a name holds its predicates as one text, and whoever answers it counts them by cutting
that text again. The count is the number of predicates that the words of the name recorded
(`Query.exists_placeholderCount`), whatever characters the words are made of: the separator between
predicates has capitals, and no word has one.

So a store and a database refuse the same numbers of values, with the same two numbers in the
failure, whatever the table is; no other failure of theirs says this
(`Query.bindMismatch_iff_of_ofName`).
-/

set_option autoImplicit false

namespace NameQuery

open Sql (Connection)

namespace Query

variable {name : String} {args : List Value} {q : Query}

/-- The query of a name expects a value for each predicate that the words of the name recorded. -/
theorem exists_placeholderCount (compiled : ofName name args = .ok q) :
    ∃ ws, Name.words? name = some ws ∧
      q.placeholderCount = (Name.readWords ws {}).clauses.filters.length := by
  obtain ⟨r, recorded, rfl⟩ := Name.exists_records compiled
  have plain := recorded.plain_filters
  obtain ⟨-, words, -, -, -, -, -, clauses⟩ := recorded
  refine ⟨_, words, ?_⟩
  rw [clauses, placeholderCount_ofClauses plain]

/-- Arguments become the values of a query as they are. -/
theorem values_ofName (compiled : ofName name args = .ok q) : q.values = args := by
  obtain ⟨ws, -, -, rfl⟩ := ofName_eq_ok_iff.mp compiled
  rfl

/-- Where whatever follows the count of the values is a refusal or an answer, a mismatch is reported
exactly if the values are not as many as expected. -/
theorem checkBindings_bind_eq_bindMismatch_iff {α : Type} {next : Unit → Except Failure α}
    (refuses : Refuses (next ())) {expected got : Nat} :
    (q.checkBindings >>= next) = .error (.bindMismatch expected got) ↔
      q.values.length ≠ q.placeholderCount ∧ expected = q.placeholderCount ∧ got = q.values.length := by
  unfold checkBindings
  split
  case isTrue same =>
    constructor
    · intro h
      have answered : next () = .error (.bindMismatch expected got) := h
      rw [answered] at refuses
      obtain ⟨reason, other⟩ := refuses.of_error
      cases other
    · rintro ⟨other, -, -⟩
      exact absurd same.symm other
  case isFalse other =>
    constructor
    · intro h
      cases h
      exact ⟨fun same => other same.symm, rfl, rfl⟩
    · rintro ⟨-, rfl, rfl⟩
      rfl

/-- Behind the count of the values a store refuses nothing but a table that does not exist. -/
theorem refuses_rows (q : Query) (store : Store) (table : String) :
    Refuses (match store.rows? table with
      | none => .error (.noSuchTable table)
      | some rows => .ok (.ofRows q.wantsOne (Store.select q rows)) : Except Failure Found) := by
  cases store.rows? table with
  | none => exact Refuses.refused _
  | some rows => exact .ok trivial

/-- **Both delegates count what the words of a name recorded.** The query of a name expects as many
values as its words recorded predicates, and a store and a connection report a mismatch exactly if
the arguments are not as many, with these two numbers, whatever they hold and whatever table is
named. -/
theorem bindMismatch_iff_of_ofName (compiled : ofName name args = .ok q) :
    ∃ ws recorded, Name.words? name = some ws ∧
      recorded = (Name.readWords ws {}).clauses.filters.length ∧ q.placeholderCount = recorded ∧
      ∀ (store : Store) (c : Connection) (table : String) (expected got : Nat),
        (store.find table q = .error (.bindMismatch expected got) ↔
          args.length ≠ recorded ∧ expected = recorded ∧ got = args.length) ∧
        (c.find table q = .error (.bindMismatch expected got) ↔
          args.length ≠ recorded ∧ expected = recorded ∧ got = args.length) := by
  obtain ⟨ws, words, count⟩ := exists_placeholderCount compiled
  refine ⟨ws, _, words, rfl, count, fun store c table expected got => ?_⟩
  have answered : Refuses (do
      let statement ← Statement.ofQuery q table
      (c.database.answer c.style statement (q.values.map Sql.Cell.ofValue)).map
        (Found.ofRows q.wantsOne)) := by
    refine Ensures.bind (Statement.refuses_ofQuery q table) fun statement _ => .map ?_
    exact c.database.refuses_answer c.style statement _
  rw [← count, ← values_ofName compiled, Connection.find_eq]
  exact ⟨checkBindings_bind_eq_bindMismatch_iff (refuses_rows q store table),
    checkBindings_bind_eq_bindMismatch_iff answered⟩

/-- A predicate may hold nearly the separator, and still counts once. -/
theorem bindMismatch_iff_of_separators :
    ∃ q, ofName "findByA=? and b=?AndAnd=?c" [.null] = .ok q ∧ q.placeholderCount = 2 ∧
      ∀ (store : Store) (c : Connection) (table : String),
        store.find table q = .error (.bindMismatch 2 1) ∧
          c.find table q = .error (.bindMismatch 2 1) := by
  have words : Name.words? "findByA=? and b=?AndAnd=?c" =
      some ["by", "a=? and b=?", "and", "and=?c"] := by decide +kernel
  have compiled : ofName "findByA=? and b=?AndAnd=?c" [.null] =
      .ok (ofClauses { filters := ["a=? and b=?=?", "and=?c=?"] } [.null]) := by decide +kernel
  obtain ⟨ws, recorded, words', count, placeholders, mismatch⟩ := bindMismatch_iff_of_ofName compiled
  rw [words] at words'
  cases words'
  have two : recorded = 2 := by
    rw [count]
    decide
  subst two
  refine ⟨_, compiled, placeholders, fun store c table => ?_⟩
  exact ⟨(mismatch store c table 2 1).1.mpr (by decide), (mismatch store c table 2 1).2.mpr (by decide)⟩

end Query

end NameQuery
