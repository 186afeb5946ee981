import NameQuery.Proofs.Table.Order
import NameQuery.Table.Store

/-!
# The order of records as a comparison for sorting

A sort asks of the comparison that it is given that its answers fit together, whatever is compared
(`IsTotalPreorder`): turned around they are reversed, ties join what is tied, and going up twice is
going up. The order of values obeys this for values of every kind, missing ones included, and so does
the search for the first field on which two records are not tied (`Record.firstDifference`), for every
list of entries, the same field twice and in two directions included. So rows come out of a sort
sorted, and as many of each as went in (`Record.comparisons_isTotalPreorder`).

The laws come from the instances for `Std.TransCmp`. What this module adds is what they say, law by
law, and that the comparison of records is that search.
-/

set_option autoImplicit false

namespace NameQuery

/-- Answers of a comparison that fit together. -/
structure IsTotalPreorder {α : Type} (cmp : α → α → Ordering) : Prop where
  self : ∀ a, cmp a a = .eq
  swap : ∀ a b, cmp b a = (cmp a b).swap
  le_trans : ∀ a b c, cmp a b ≠ .gt → cmp b c ≠ .gt → cmp a c ≠ .gt
  lt_trans : ∀ a b c, cmp a b = .lt → cmp b c = .lt → cmp a c = .lt
  eq_trans : ∀ a b c, cmp a b = .eq → cmp b c = .eq → cmp a c = .eq
  congr : ∀ a b c, cmp a b = .eq → cmp a c = cmp b c ∧ cmp c a = cmp c b

/-- A comparison of the class of the library obeys the laws of a total preorder. -/
theorem isTotalPreorder_of_transCmp {α : Type} {cmp : α → α → Ordering} [Std.TransCmp cmp] :
    IsTotalPreorder cmp where
  self _ := Std.ReflCmp.compare_self
  swap _ _ := Std.OrientedCmp.eq_swap
  le_trans a b c ab bc := by
    refine Ordering.isLE_iff_ne_gt.mp (Std.TransCmp.isLE_trans (b := b) ?_ ?_)
    · exact Ordering.isLE_iff_ne_gt.mpr ab
    · exact Ordering.isLE_iff_ne_gt.mpr bc
  lt_trans _ _ _ ab bc := Std.TransCmp.lt_trans ab bc
  eq_trans _ _ _ ab bc := Std.TransCmp.eq_trans ab bc
  congr _ _ _ ab := ⟨Std.TransCmp.congr_left ab, Std.TransCmp.congr_right ab⟩

namespace Record

/-- The comparisons by the fields of the entries, each in its direction, up to the first that is no
tie. -/
def firstDifference (entries : List (String × Option Direction)) (a b : Record) : Ordering :=
  ((entries.map fun (field, d) => directed d (cellOrder (a.get? field) (b.get? field))).find?
    (· != .eq)).getD .eq

/-- Records are ordered by the first field in which they are no tie. -/
theorem rowOrder_eq_firstDifference (entries : List (String × Option Direction)) :
    rowOrder entries = firstDifference entries := by
  funext a b
  induction entries with
  | nil => rfl
  | cons entry entries ih =>
    obtain ⟨field, d⟩ := entry
    rw [rowOrder, ih, firstDifference, firstDifference, List.map_cons, List.find?_cons]
    dsimp only
    cases directed d (cellOrder (a.get? field) (b.get? field)) <;> rfl

/-- Sorting leaves no row behind a row that comes before it, and loses none. -/
theorem ordered_sorted (entries : List (String × Option Direction)) (rows : List Record) :
    (Store.ordered entries rows).Perm rows ∧
      (Store.ordered entries rows).Pairwise fun a b => rowOrder entries a b ≠ .gt := by
  have total : ∀ a b, (rowOrder entries a b).isLE || (rowOrder entries b a).isLE := by
    intro a b
    have swap : rowOrder entries b a = (rowOrder entries a b).swap := Std.OrientedCmp.eq_swap
    rw [swap]
    cases rowOrder entries a b <;> rfl
  refine ⟨List.mergeSort_perm rows _, ?_⟩
  refine (List.pairwise_mergeSort (fun a b c => ?_) total rows).imp fun le => Ordering.isLE_iff_ne_gt.mp le
  exact Std.TransCmp.isLE_trans

/-- The order of values and the search for the first difference of two records are total preorders,
and rows are sorted by the search. -/
theorem comparisons_isTotalPreorder :
    IsTotalPreorder cellOrder ∧
      ∀ entries : List (String × Option Direction),
        rowOrder entries = firstDifference entries ∧ IsTotalPreorder (firstDifference entries) ∧
          ∀ rows : List Record, (Store.ordered entries rows).Perm rows ∧
            (Store.ordered entries rows).Pairwise fun a b => firstDifference entries a b ≠ .gt := by
  refine ⟨isTotalPreorder_of_transCmp, fun entries => ⟨rowOrder_eq_firstDifference entries, ?_⟩⟩
  rw [← rowOrder_eq_firstDifference]
  exact ⟨isTotalPreorder_of_transCmp, ordered_sorted entries⟩

end Record

end NameQuery
