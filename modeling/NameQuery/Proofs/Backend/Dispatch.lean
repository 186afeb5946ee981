import NameQuery.Proofs.Name.Spelling
import NameQuery.Resolver

/-!
# Who answers a call

A resolver is built by registrations, one after the other (`Resolver.ofHistory`). What a call by name
comes to is said of the whole history: the method that was registered last under the name answers,
whatever else was registered before or after it; a text that is no finder name goes to the fallback
that was set last; and a finder name is compiled and put to the backend.

A failure is never looked at to decide who is asked next, although the compiler says by a failure
that a text is no finder name. This is sound because the grammar never fails in that way
(`Query.ofName_eq_notAFinderName_iff`), and because the answers of methods, fallback and backend are
passed on as they are.
-/

set_option autoImplicit false

namespace NameQuery

open Name (OpensAsFinder)

/-- What can be registered with a resolver. -/
inductive Registration (β : Type)
  | method (name : String) (method : β → List Value → Except Failure Found)
  | fallback (answer : String → List Value → Except Failure Found)

namespace Registration

variable {β : Type}

def IsMethod (name : String) (x : Registration β) : Prop := ∃ m, x = .method name m

def IsFallback (x : Registration β) : Prop := ∃ answer, x = .fallback answer

end Registration

/-- A member of a history that has a property which no later one has. -/
def IsLast {α : Type} (P : α → Prop) (history : List α) (x : α) : Prop :=
  P x ∧ ∃ before after, history = before ++ x :: after ∧ ∀ y ∈ after, ¬ P y

/-- Where something has a property, there is a last thing that has it. -/
theorem exists_isLast {α : Type} {P : α → Prop} {history : List α} (h : ∃ x ∈ history, P x) :
    ∃ x, IsLast P history x := by
  induction history with
  | nil =>
    obtain ⟨x, hx, -⟩ := h
    cases hx
  | cons x history ih =>
    by_cases later : ∃ y ∈ history, P y
    · obtain ⟨y, holds, before, after, rfl, last⟩ := ih later
      exact ⟨y, holds, x :: before, after, rfl, last⟩
    · push Not at later
      obtain ⟨y, hy, holds⟩ := h
      rcases List.mem_cons.mp hy with rfl | hy
      · exact ⟨y, holds, [], history, rfl, later⟩
      · exact absurd holds (later y hy)

namespace Resolver

variable {β : Type} {r : Resolver β} {x : Registration β} {history : List (Registration β)}
  {name : String}

def record (r : Resolver β) : Registration β → Resolver β
  | .method name method => r.register name method
  | .fallback answer => r.fallBackTo answer

/-- The resolver of a table after registrations, the first one first. -/
def ofHistory (table : String) (history : List (Registration β)) : Resolver β :=
  history.foldl record { table }

/-! ## What a registration leaves as it is -/

theorem table_record : (r.record x).table = r.table := by
  cases x <;> rfl

/-- Registering anything but a method of this name leaves the method of this name as it is. -/
theorem lookup_record (h : ¬ x.IsMethod name) :
    (r.record x).methods.lookup name = r.methods.lookup name := by
  cases x with
  | fallback answer => rfl
  | method other m =>
    have different : name ≠ other := by
      rintro rfl
      exact h ⟨m, rfl⟩
    show List.lookup name ((other, m) :: r.methods) = _
    rw [List.lookup_cons, beq_false_of_ne different]

/-- Registering anything but a fallback leaves the fallback as it is. -/
theorem fallback_record (h : ¬ x.IsFallback) : (r.record x).fallback = r.fallback := by
  cases x with
  | fallback answer => exact absurd ⟨answer, rfl⟩ h
  | method other m => rfl

theorem table_foldl_record : (history.foldl record r).table = r.table := by
  induction history generalizing r with
  | nil => rfl
  | cons x history ih => rw [List.foldl_cons, ih, table_record]

/-- A history without a method of this name leaves the method of this name as it is. -/
theorem lookup_foldl_record (h : ∀ x ∈ history, ¬ x.IsMethod name) :
    (history.foldl record r).methods.lookup name = r.methods.lookup name := by
  induction history generalizing r with
  | nil => rfl
  | cons x history ih =>
    rw [List.forall_mem_cons] at h
    rw [List.foldl_cons, ih h.2, lookup_record h.1]

/-- A history without a fallback leaves the fallback as it is. -/
theorem fallback_foldl_record (h : ∀ x ∈ history, ¬ x.IsFallback) :
    (history.foldl record r).fallback = r.fallback := by
  induction history generalizing r with
  | nil => rfl
  | cons x history ih =>
    rw [List.forall_mem_cons] at h
    rw [List.foldl_cons, ih h.2, fallback_record h.1]

/-! ## What a history leaves behind -/

variable {table : String}

theorem table_ofHistory : (ofHistory table history).table = table := table_foldl_record

/-- The method of a name is the one that was registered last for it. -/
theorem lookup_ofHistory {m : β → List Value → Except Failure Found}
    (h : IsLast (Registration.IsMethod name) history (.method name m)) :
    (ofHistory table history).methods.lookup name = some m := by
  obtain ⟨-, before, after, rfl, last⟩ := h
  rw [ofHistory, List.foldl_append, List.foldl_cons, lookup_foldl_record last]
  exact List.lookup_cons_self

/-- The fallback is the one that was registered last. -/
theorem fallback_ofHistory {answer : String → List Value → Except Failure Found}
    (h : IsLast Registration.IsFallback history (.fallback answer)) :
    (ofHistory table history).fallback = some answer := by
  obtain ⟨-, before, after, rfl, last⟩ := h
  rw [ofHistory, List.foldl_append, List.foldl_cons, fallback_foldl_record last]
  rfl

/-! ## What a call comes to -/

variable [Backend β] (backend : β) (args : List Value)

/-- A registered method answers before anything else is looked at. -/
theorem call_of_method {m : β → List Value → Except Failure Found}
    (h : r.methods.lookup name = some m) : r.call backend name args = m backend args := by
  rw [call, h]

/-- A call of a text that is no finder name is up to the fallback. -/
theorem call_of_not_opens (unregistered : r.methods.lookup name = none) (h : ¬ OpensAsFinder name) :
    r.call backend name args = match r.fallback with
      | some answer => answer name args
      | none => .error (.noSuchMethod name) := by
  have refused : Query.ofName name args = .error (.notAFinderName name) :=
    Query.ofName_eq_notAFinderName_iff.mpr ⟨Name.words?_eq_none_iff.mpr h, rfl⟩
  rewrite [call, unregistered, refused]
  rfl

/-- A call of a finder name is up to the grammar and the backend. -/
theorem call_of_opens (unregistered : r.methods.lookup name = none) (h : OpensAsFinder name) :
    r.call backend name args = Query.ofName name args >>= Backend.find backend r.table := by
  rw [call, unregistered]
  dsimp only
  cases compiled : Query.ofName name args with
  | ok q => rfl
  | error why =>
    -- the failure that asks for the fallback would mean that the name has no words
    cases why with
    | notAFinderName other =>
      obtain ⟨none, -⟩ := Query.ofName_eq_notAFinderName_iff.mp compiled
      exact absurd h (Name.words?_eq_none_iff.mp none)
    | _ => rfl

/-- What is refused of a finder name is refused by the grammar. -/
theorem isGrammatical_of_opens {why : Failure} (h : OpensAsFinder name)
    (refused : Query.ofName name args = .error why) :
    (∃ word, why = .unknownContinuation word) ∨ why = .malformedOrder := by
  have grammatical : why.isGrammatical = true := by
    rcases Query.ofName_eq_error_iff.mp refused with ⟨none, -⟩ | ⟨ws, -, failed⟩
    · exact absurd h (Name.words?_eq_none_iff.mp none)
    · exact (Name.reads_read .columns ws {}).isGrammatical failed
  cases why with
  | unknownContinuation word => exact .inl ⟨word, rfl⟩
  | malformedOrder => exact .inr rfl
  | _ => cases grammatical

/-- **Who answers a call**, after any registrations. A registered name runs the method that was
registered last under it. Another text that is no finder name is answered by the fallback that was
set last, or by nobody. Another finder name never reaches a fallback: what the grammar refuses of it
is the answer, and otherwise what the backend finds for its query. -/
theorem call_ofHistory (table : String) (history : List (Registration β)) (backend : β)
    (name : String) (args : List Value) :
    ((∃ x ∈ history, x.IsMethod name) →
      ∃ m, IsLast (Registration.IsMethod name) history (.method name m) ∧
        (ofHistory table history).call backend name args = m backend args) ∧
    ((∀ x ∈ history, ¬ x.IsMethod name) → ¬ OpensAsFinder name →
      (∃ answer, IsLast Registration.IsFallback history (.fallback answer) ∧
        (ofHistory table history).call backend name args = answer name args) ∨
      (∀ x ∈ history, ¬ x.IsFallback) ∧
        (ofHistory table history).call backend name args = .error (.noSuchMethod name)) ∧
    ((∀ x ∈ history, ¬ x.IsMethod name) → OpensAsFinder name →
      (∀ answer?, ({ ofHistory table history with fallback := answer? } : Resolver β).call backend
        name args = (ofHistory table history).call backend name args) ∧
      ((∃ why, Query.ofName name args = .error why ∧
          ((∃ word, why = .unknownContinuation word) ∨ why = .malformedOrder) ∧
          (ofHistory table history).call backend name args = .error why) ∨
        ∃ q, Query.ofName name args = .ok q ∧
          (ofHistory table history).call backend name args = Backend.find backend table q)) := by
  refine ⟨fun registered => ?_, fun unregistered other => ?_, fun unregistered opens => ?_⟩
  · obtain ⟨x, last⟩ := exists_isLast registered
    obtain ⟨m, rfl⟩ := last.1
    exact ⟨m, last, call_of_method backend args (lookup_ofHistory last)⟩
  · have called := call_of_not_opens backend args
      (lookup_foldl_record (r := { table }) unregistered) other
    by_cases set : ∃ x ∈ history, x.IsFallback
    · obtain ⟨x, last⟩ := exists_isLast set
      obtain ⟨answer, rfl⟩ := last.1
      refine .inl ⟨answer, last, ?_⟩
      exact called.trans (by rw [← ofHistory, fallback_ofHistory last])
    · push Not at set
      refine .inr ⟨set, ?_⟩
      exact called.trans (by rw [fallback_foldl_record set])
  · have unknown : (ofHistory table history).methods.lookup name = none :=
      lookup_foldl_record (r := { table }) unregistered
    have called := call_of_opens backend args unknown opens
    rw [table_ofHistory] at called
    refine ⟨fun answer? => ?_, ?_⟩
    · rw [called, call_of_opens (r := { ofHistory table history with fallback := answer? }) backend args
        unknown opens]
      exact congrArg (fun t => Query.ofName name args >>= Backend.find backend t) table_ofHistory
    · cases compiled : Query.ofName name args with
      | error why =>
        rw [compiled] at called
        exact .inl ⟨why, rfl, isGrammatical_of_opens args opens compiled, called⟩
      | ok q =>
        rw [compiled] at called
        exact .inr ⟨q, rfl, called⟩

end Resolver

end NameQuery
