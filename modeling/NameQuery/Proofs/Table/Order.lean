import Mathlib
import NameQuery.Table.Record

/-!
# The order of records

The order of two values of a field is lexicographic: first by the kind of the values, then by what
they are as numbers, then by what they are as texts (`Record.cellOrder_eq`). So it is a total
preorder, and with it the order of records by several fields, whatever the directions are.

A record comes before another one (`Record.Precedes`) if it has the lesser value on the first field
where the two differ, or the greater value if the direction of that field descends. Records that
differ on none of the fields are tied (`Record.Ties`). The order of records decides just that
(`Record.rowOrder_eq_lt_iff`, `Record.rowOrder_eq_eq_iff`).
-/

set_option autoImplicit false

namespace NameQuery.Record

/-! ## Values -/

/-- A value as a number: a truth value is zero or one, a number is counted in units. -/
def cellNumber : Option Json → Int
  | some (.bool b) => b.toInt
  | some (.number n) => n.toBinary64.units
  | _ => 0

def cellText : Option Json → String
  | some (.string s) => s
  | _ => ""

/-- Values are ordered by their kinds, then as numbers, then as texts. -/
theorem cellOrder_eq :
    cellOrder =
      compareLex (compareOn kindRank) (compareLex (compareOn cellNumber) (compareOn cellText)) := by
  have same : ∀ a b : Bool, compare a b = compare a.toInt b.toInt := by decide
  funext a b
  rcases a with - | - | x | x | x | x | x <;> rcases b with - | - | y | y | y | y | y <;>
    simp [cellOrder, compareLex, compareOn, kindRank, cellNumber, cellText, Binary64.order, same]
  -- what is left are values of two kinds, whose ranks decide
  all_goals rfl

instance : Std.TransCmp cellOrder := cellOrder_eq ▸ inferInstance

/-! ## Records -/

section

variable {α : Type} {cmp : α → α → Ordering} [Std.TransCmp cmp]

/-- A direction keeps an order one. -/
instance transCmp_directed (d : Option Direction) : Std.TransCmp fun a b => directed d (cmp a b) := by
  cases d with
  | none => exact inferInstanceAs (Std.TransCmp cmp)
  | some d =>
    cases d with
    | ascending => exact inferInstanceAs (Std.TransCmp cmp)
    | descending =>
      have swapped : (fun a b => directed (some .descending) (cmp a b)) = fun a b => cmp b a := by
        funext a b
        exact Std.OrientedCmp.eq_swap.symm
      rw [swapped]
      exact .opposite

/-- What is read off values is ordered as the values are. -/
theorem transCmp_on {β : Type} (f : β → α) : Std.TransCmp fun a b => cmp (f a) (f b) where
  eq_swap := Std.OrientedCmp.eq_swap
  isLE_trans := Std.TransCmp.isLE_trans

end

/-- Records are ordered by a field as its values are. -/
instance transCmp_get? (field : String) :
    Std.TransCmp fun a b : Record => cellOrder (a.get? field) (b.get? field) :=
  transCmp_on (Record.get? · field)

instance transCmp_rowOrder (entries : List (String × Option Direction)) :
    Std.TransCmp (rowOrder entries) := by
  induction entries with
  | nil =>
    refine { eq_swap := rfl, isLE_trans := ?_ }
    intro a b c _ _
    rfl
  | cons entry entries ih =>
    obtain ⟨field, d⟩ := entry
    exact inferInstanceAs (Std.TransCmp (compareLex
      (fun a b => directed d (cellOrder (a.get? field) (b.get? field))) (rowOrder entries)))

/-! ## The first field that differs -/

/-- Two records are equal in the fields of all entries. -/
def Ties (entries : List (String × Option Direction)) (a b : Record) : Prop :=
  ∀ entry ∈ entries, cellOrder (a.get? entry.1) (b.get? entry.1) = .eq

/-- The place of the lesser value in a direction: in front, or behind if the direction descends. -/
def inFront (d : Option Direction) : Ordering := if d = some .descending then .gt else .lt

/-- On the first field where two records differ, one of them has the value that its direction wants
in front. -/
def Precedes (entries : List (String × Option Direction)) (a b : Record) : Prop :=
  ∃ tied field d rest, entries = tied ++ (field, d) :: rest ∧ Ties tied a b ∧
    cellOrder (a.get? field) (b.get? field) = inFront d

/-- A direction makes no tie and breaks none. -/
theorem directed_eq_eq_iff {d : Option Direction} {o : Ordering} : directed d o = .eq ↔ o = .eq := by
  rcases d with - | - | - <;> cases o <;> decide

/-- What stands in front is told by the direction. -/
theorem directed_eq_lt_iff {d : Option Direction} {o : Ordering} :
    directed d o = .lt ↔ o = inFront d := by
  rcases d with - | - | - <;> cases o <;> decide

variable {entries : List (String × Option Direction)} {field : String} {d : Option Direction}
  {a b : Record}

/-- Records tie by entries if they tie by the first and by the others. -/
theorem ties_cons :
    Ties ((field, d) :: entries) a b ↔
      cellOrder (a.get? field) (b.get? field) = .eq ∧ Ties entries a b :=
  List.forall_mem_cons

/-- Without a field no record comes before another one. -/
theorem not_precedes_nil : ¬ Precedes [] a b := by
  rintro ⟨tied, _, _, _, split, _⟩
  cases tied with
  | nil => cases split
  | cons entry tied => cases split

/-- The first entry decides, or the two records are equal in its field and the others decide. -/
theorem precedes_cons :
    Precedes ((field, d) :: entries) a b ↔
      cellOrder (a.get? field) (b.get? field) = inFront d ∨
        cellOrder (a.get? field) (b.get? field) = .eq ∧ Precedes entries a b := by
  constructor
  · rintro ⟨tied, field', d', rest, split, ties, front⟩
    cases tied with
    | nil =>
      cases split
      exact .inl front
    | cons entry tied =>
      cases split
      obtain ⟨first, others⟩ := ties_cons.mp ties
      exact .inr ⟨first, tied, field', d', rest, rfl, others, front⟩
  · intro h
    cases h with
    | inl front => exact ⟨[], field, d, entries, rfl, nofun, front⟩
    | inr h =>
      obtain ⟨first, tied, field', d', rest, rfl, others, front⟩ := h
      exact ⟨(field, d) :: tied, field', d', rest, rfl, ties_cons.mpr ⟨first, others⟩, front⟩

/-- By a single field the record with the value in front comes before the other one. -/
theorem precedes_singleton :
    Precedes [(field, d)] a b ↔ cellOrder (a.get? field) (b.get? field) = inFront d := by
  rw [precedes_cons]
  exact or_iff_left fun h => not_precedes_nil h.2

/-- Records are ordered equal exactly if they tie by all entries. -/
theorem rowOrder_eq_eq_iff : rowOrder entries a b = .eq ↔ Ties entries a b := by
  induction entries with
  | nil => exact ⟨fun _ => nofun, fun _ => rfl⟩
  | cons entry entries ih =>
    obtain ⟨field, d⟩ := entry
    rw [rowOrder, Ordering.then_eq_eq, directed_eq_eq_iff, ih, ties_cons]

/-- A record is ordered before another one exactly if it precedes it at the first entry that is no
tie. -/
theorem rowOrder_eq_lt_iff : rowOrder entries a b = .lt ↔ Precedes entries a b := by
  induction entries with
  | nil => exact ⟨nofun, fun h => (not_precedes_nil h).elim⟩
  | cons entry entries ih =>
    obtain ⟨field, d⟩ := entry
    rw [rowOrder, Ordering.then_eq_lt, directed_eq_eq_iff, directed_eq_lt_iff, ih, precedes_cons]

end NameQuery.Record
