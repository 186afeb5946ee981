import Mathlib
import NameQuery.Table.Store

/-!
# What a store finds

When a store finds something and what (`Store.find_eq_ok_iff`), and where the found records come
from: each is a row of the table with the columns of the query (`Store.exists_of_mem_select`).
-/

set_option autoImplicit false

namespace NameQuery

/-- The records of what is found are among the rows that it was made of. -/
theorem Found.mem_of_mem_records {one : Bool} {rows : List Record} {r : Record}
    (h : r ∈ (Found.ofRows one rows).records) : r ∈ rows := by
  cases one with
  | false => exact h
  | true =>
    cases rows with
    | nil => cases h
    | cons first rest =>
      cases List.mem_singleton.mp h
      exact List.mem_cons_self

/-! ## Pages -/

/-- The rows of a page are among those that it was cut from. -/
theorem Query.mem_of_mem_page {α : Type} {q : Query} {rows : List α} {x : α} (h : x ∈ q.page rows) :
    x ∈ rows := by
  rw [page] at h
  split at h
  · exact List.mem_of_mem_drop h
  · exact List.mem_of_mem_drop (List.mem_of_mem_take h)

/-- A page is a matter of places, whatever stands there. -/
theorem Query.map_page {α β : Type} (q : Query) (f : α → β) (rows : List α) :
    (q.page rows).map f = q.page (rows.map f) := by
  rw [page, page]
  split
  · exact List.map_drop
  · rw [List.map_take, List.map_drop]

/-- A page of one row from the start is that row. -/
theorem Query.page_singleton {α : Type} {q : Query} (start : q.offset = 0) (x : α) : q.page [x] = [x] := by
  have first : [x].drop q.offset.toNat = [x] := by rw [start]; rfl
  rw [page, first]
  split
  · rfl
  · next limited =>
    have positive : q.limit.toNat ≠ 0 := fun h => limited (UInt64.toNat_inj.mp h)
    obtain ⟨n, hn⟩ := Nat.exists_eq_succ_of_ne_zero positive
    rw [hn, List.take_succ_cons, List.take_nil]

/-! ## Finding -/

namespace Store

variable {s : Store} {table : String} {q : Query}

/-- A store finds something exactly if there are as many values as predicates and the table exists. -/
theorem find_eq_ok_iff {found : Found} :
    s.find table q = .ok found ↔
      q.checkBindings = .ok () ∧
        ∃ rows, s.rows? table = some rows ∧ found = .ofRows q.wantsOne (select q rows) := by
  rw [find]
  cases q.checkBindings with
  | error e => exact ⟨nofun, fun h => nomatch h.1⟩
  | ok u =>
    cases hr : s.rows? table with
    | none => exact ⟨fun h => (nomatch h), fun ⟨_, _, h, _⟩ => (nomatch h)⟩
    | some rows =>
      constructor
      · exact fun h => ⟨rfl, rows, rfl, (Except.ok.inj h).symm⟩
      · rintro ⟨-, others, hr, rfl⟩
        cases hr
        rfl

/-- Queries that take the same number of values, and then select the same rows, find the same. -/
theorem find_congr {q' : Query} (fields : q.placeholderCount = q'.placeholderCount)
    (values : q.values.length = q'.values.length) (wanted : q.wantsOne = q'.wantsOne)
    (selected : q.placeholderCount = q.values.length → ∀ rows, select q rows = select q' rows) :
    s.find table q = s.find table q' := by
  rw [find, find, Query.checkBindings, Query.checkBindings, ← fields, ← values, wanted]
  by_cases counted : q.placeholderCount = q.values.length
  · rw [if_pos counted]
    simp only [selected counted]
  · rw [if_neg counted]
    rfl

/-- What is selected are rows of the table with the columns of the query. -/
theorem exists_of_mem_select {rows : List Record} {r : Record} (h : r ∈ select q rows) :
    ∃ row ∈ rows, Record.project q.columns row = r := by
  obtain ⟨row, hrow, hr⟩ := List.mem_map.mp h
  have kept := List.mem_mergeSort.mp (Query.mem_of_mem_page hrow)
  exact ⟨row, List.mem_of_mem_filter kept, hr⟩

/-- A single row on which all predicates hold is found. -/
theorem select_singleton {row : Record} (agrees : agreesOn q.filterFields q.values row = true)
    (start : q.offset = 0) : select q [row] = [Record.project q.columns row] := by
  have kept : [row].filter (agreesOn q.filterFields q.values) = [row] := by
    rw [List.filter_singleton, agrees]
    rfl
  rw [select, kept, ordered, List.mergeSort_singleton, Query.page_singleton start, List.map_singleton]

end Store

end NameQuery
