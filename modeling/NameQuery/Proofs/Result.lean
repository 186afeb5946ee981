import Mathlib

/-!
# What a computation ensures

A computation that can fail ensures two properties: one of its value, and one of its failure
(`Ensures`). Its steps are gone through one by one (`Ensures.bind`), so what is known of a step is
said once, with `True` for the side that does not matter.
-/

set_option autoImplicit false

namespace NameQuery

variable {α β ε φ : Type}

/-- A value of the computation has the property `P`, and a failure of it the property `E`. -/
inductive Ensures (P : α → Prop) (E : ε → Prop) : Except ε α → Prop
  | ok {a : α} (h : P a) : Ensures P E (.ok a)
  | error {e : ε} (h : E e) : Ensures P E (.error e)

namespace Ensures

variable {x : Except ε α} {P Q : α → Prop} {R : β → Prop} {E : ε → Prop} {F : φ → Prop}

/-- A result that is given ensures what it has. -/
theorem pure {a : α} (h : P a) : Ensures P E (Pure.pure a) := .ok h

/-- What is ensured holds of the value that came out. -/
theorem of_ok {a : α} (h : Ensures P E (.ok a)) : P a := by
  cases h
  assumption

/-- What is ensured of failures holds of the one that came out. -/
theorem of_error {e : ε} (h : Ensures P E (.error e)) : E e := by
  cases h
  assumption

/-- What is ensured can be weakened. -/
theorem mono (h : Ensures P E x) (imp : ∀ a, P a → Q a) : Ensures Q E x := by
  cases h with
  | ok h => exact .ok (imp _ h)
  | error h => exact .error h

/-- What follows a step may use what the step ensures. -/
theorem bind {f : α → Except ε β} (h : Ensures P E x) (next : ∀ a, P a → Ensures R E (f a)) :
    Ensures R E (x >>= f) := by
  cases h with
  | ok h => exact next _ h
  | error h => exact .error h

/-- A step of which nothing is known. -/
theorem bind_any {f : α → Except ε β} (next : ∀ a, Ensures R (fun _ => True) (f a)) :
    Ensures R (fun _ => True) (x >>= f) := by
  cases x with
  | ok a => exact next a
  | error e => exact .error trivial

theorem map {f : α → β} (h : Ensures (fun a => R (f a)) E x) : Ensures R E (x.map f) := by
  cases h with
  | ok h => exact .ok h
  | error h => exact .error h

theorem mapError {f : ε → φ} (h : Ensures P (fun e => F (f e)) x) : Ensures P F (x.mapError f) := by
  cases h with
  | ok h => exact .ok h
  | error h => exact .error h

/-- Steps for the members of a list fail as each of them can. -/
theorem mapM {f : α → Except ε β} {l : List α} (h : ∀ a ∈ l, Ensures (fun _ => True) E (f a)) :
    Ensures (fun _ => True) E (l.mapM f) := by
  induction l with
  | nil => exact .pure trivial
  | cons a l ih =>
    rw [List.forall_mem_cons] at h
    rw [List.mapM_cons]
    exact bind h.1 fun _ _ => bind (ih h.2) fun _ _ => .pure trivial

end Ensures

end NameQuery
