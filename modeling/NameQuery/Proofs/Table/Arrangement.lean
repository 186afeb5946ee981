import Mathlib
import NameQuery.Proofs.Table.Order
import NameQuery.Table.Store

/-!
# Arrangements

An arrangement of rows has each place of their list once, in the order that the entries ask for. Rows
that are tied stand as in the list. Which of two rows stands in front is settled by this
(`Arrangement.idxOf_lt_idxOf_iff`), so there is just one arrangement, and sorting the rows makes it
(`Arrangement.toList_sorted`).
-/

set_option autoImplicit false

namespace NameQuery

open Record (Precedes Ties rowOrder)

variable {entries : List (String × Option Direction)} {rows : List Record}

/-- The row at one place comes before the row at another place, or the two rows are tied and the first
place is in front. -/
def StandsBefore (entries : List (String × Option Direction)) (rows : List Record)
    (i j : Fin rows.length) : Prop :=
  Precedes entries (rows.get i) (rows.get j) ∨ Ties entries (rows.get i) (rows.get j) ∧ i < j

/-- The places of a list of rows in the order of the entries, each place once. -/
structure Arrangement (entries : List (String × Option Direction)) (rows : List Record) where
  places : List (Fin rows.length)
  once : places.Perm (List.finRange rows.length)
  inOrder : places.Pairwise (StandsBefore entries rows)

def Arrangement.toList (a : Arrangement entries rows) : List Record := a.places.map rows.get

/-! ## The order of places -/

/-- Places are ordered by their rows and then by themselves. -/
def placeOrder (entries : List (String × Option Direction)) (rows : List Record) :
    Fin rows.length → Fin rows.length → Ordering :=
  compareLex (fun i j => rowOrder entries (rows.get i) (rows.get j)) compare

instance : Std.TransCmp (placeOrder entries rows) := by
  have := @Record.transCmp_on _ _ (Record.transCmp_rowOrder entries) _ rows.get
  exact inferInstanceAs (Std.TransCmp (compareLex _ _))

/-- Places are ordered by their rows, and by their numbers where the rows tie. -/
theorem placeOrder_eq_then (i j : Fin rows.length) :
    placeOrder entries rows i j = (rowOrder entries (rows.get i) (rows.get j)).then (compare i j) := rfl

/-- The order of places is that of standing before. -/
theorem placeOrder_eq_lt_iff {i j : Fin rows.length} :
    placeOrder entries rows i j = .lt ↔ StandsBefore entries rows i j := by
  rw [placeOrder_eq_then, Ordering.then_eq_lt, Record.rowOrder_eq_lt_iff, Record.rowOrder_eq_eq_iff,
    compare_lt_iff_lt]
  rfl

/-- No two places are equal in the order. -/
theorem eq_of_placeOrder_eq {i j : Fin rows.length} (h : placeOrder entries rows i j = .eq) : i = j := by
  rw [placeOrder_eq_then, Ordering.then_eq_eq] at h
  exact compare_eq_iff_eq.mp h.2

theorem StandsBefore.asymm {i j : Fin rows.length} (h : StandsBefore entries rows i j) :
    ¬ StandsBefore entries rows j i := by
  intro back
  have lt := placeOrder_eq_lt_iff.mpr h
  rw [@Std.OrientedCmp.eq_swap _ (placeOrder entries rows), placeOrder_eq_lt_iff.mpr back] at lt
  cases lt

/-! ## Where a row stands -/

namespace Arrangement

theorem mem_places (a : Arrangement entries rows) (i : Fin rows.length) : i ∈ a.places :=
  a.once.mem_iff.mpr (List.mem_finRange i)

/-- Which of two rows is in front depends on the two alone. -/
theorem idxOf_lt_idxOf_iff (a : Arrangement entries rows) {i j : Fin rows.length} :
    a.places.idxOf i < a.places.idxOf j ↔ StandsBefore entries rows i j := by
  have forward : ∀ {i j}, a.places.idxOf i < a.places.idxOf j → StandsBefore entries rows i j := by
    intro i j lt
    have ordered := List.pairwise_iff_getElem.mp a.inOrder _ _ (List.idxOf_lt_length_of_mem (a.mem_places i))
      (List.idxOf_lt_length_of_mem (a.mem_places j)) lt
    rwa [List.getElem_idxOf, List.getElem_idxOf] at ordered
  refine ⟨forward, fun before => ?_⟩
  by_contra behind
  cases Nat.lt_or_eq_of_le (Nat.le_of_not_lt behind) with
  | inl lt => exact before.asymm (forward lt)
  | inr same =>
    have twice : j = i := (List.idxOf_inj (a.mem_places j)).mp same
    subst twice
    exact before.asymm before

/-! ## Sorting -/

/-- The arrangement that sorting makes. -/
def sorted (entries : List (String × Option Direction)) (rows : List Record) :
    Arrangement entries rows where
  places := (List.finRange rows.length).mergeSort fun i j => (placeOrder entries rows i j).isLE
  once := List.mergeSort_perm _ _
  inOrder := by
    have distinct := (List.mergeSort_perm (List.finRange rows.length) fun i j =>
      (placeOrder entries rows i j).isLE).nodup_iff.mpr (List.nodup_finRange _)
    have ordered := List.pairwise_mergeSort
      (fun i j k => @Std.TransCmp.isLE_trans _ (placeOrder entries rows) _ i j k) (fun i j => ?total)
      (List.finRange rows.length)
    · refine (ordered.and distinct).imp ?_
      intro i j ⟨le, ne⟩
      cases h : placeOrder entries rows i j with
      | lt => exact placeOrder_eq_lt_iff.mp h
      | eq => exact absurd (eq_of_placeOrder_eq h) ne
      | gt =>
        rw [h] at le
        cases le
    case total =>
      rw [@Std.OrientedCmp.eq_swap _ (placeOrder entries rows) _ j i]
      cases placeOrder entries rows i j <;> rfl

/-- A list of rows with their places. -/
theorem map_finRange_eq_zipIdx (rows : List Record) :
    (List.finRange rows.length).map (fun i => (rows.get i, i.val)) = rows.zipIdx := by
  apply List.ext_getElem
  · simp
  · intro i _ _
    simp

/-- Places are ordered as a stable sorting orders rows with their places. -/
theorem isLE_placeOrder (i j : Fin rows.length) :
    (placeOrder entries rows i j).isLE =
      List.zipIdxLE (fun a b => (rowOrder entries a b).isLE) (rows.get i, i.val) (rows.get j, j.val) := by
  rw [placeOrder_eq_then, List.zipIdxLE]
  dsimp only
  rw [@Std.OrientedCmp.eq_swap _ (rowOrder entries) _ (rows.get j) (rows.get i)]
  cases rowOrder entries (rows.get i) (rows.get j) with
  | lt => rfl
  | gt => rfl
  | eq =>
    show (compare i j).isLE = decide (i ≤ j)
    rw [Bool.eq_iff_iff, Ordering.isLE_iff_ne_gt, decide_eq_true_iff]
    exact compare_le_iff_le

/-- Rows that are sorted are arranged. -/
theorem toList_sorted (entries : List (String × Option Direction)) (rows : List Record) :
    (sorted entries rows).toList = Store.ordered entries rows := calc
  (sorted entries rows).toList =
      ((sorted entries rows).places.map fun i => (rows.get i, i.val)).map (·.1) := by
    rw [List.map_map]
    rfl
  _ = (rows.zipIdx.mergeSort (List.zipIdxLE fun a b => (rowOrder entries a b).isLE)).map (·.1) := by
    rw [sorted, List.map_mergeSort fun i _ j _ => isLE_placeOrder i j, map_finRange_eq_zipIdx]
  _ = Store.ordered entries rows := List.mergeSort_zipIdx

end Arrangement

end NameQuery
