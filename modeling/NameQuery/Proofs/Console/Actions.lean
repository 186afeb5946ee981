import NameQuery.Console.Transcript

/-!
# What actions show

An action ends in a way and shows something (`Action.Ends`) if it does so whatever has been shown before: nothing
that an action shows is taken back, and nothing that was shown counts for it. What a course of actions shows is
what each of them shows, one after the other (`Action.Ends.bind`), up to the one that breaks it off
(`Action.Ends.bind_error`). So what a whole run shows is told by its parts.

The text of notes is told by the notes and by the clock that is read for the log lines among them. It is made from
the left as well: notes that come later have their own text, with the times from the readings that the notes before
have left (`Note.texts_append`). Where no log line is among them no clock counts (`Note.texts_of_timeless`).
-/

set_option autoImplicit false

namespace NameQuery

/-! ## Notes -/

namespace Note

/-- The note is a log line, for which the clock is read. -/
def isLogged : Note → Bool
  | .message _ => false
  | .logged _ => true

/-- How often the clock is read for notes. -/
def readings (notes : List Note) : Nat := notes.countP isLogged

@[simp] theorem readings_message (text : String) (notes : List Note) :
    readings (.message text :: notes) = readings notes :=
  List.countP_cons_of_neg (by simp [isLogged])

/-- A log line takes one reading of the clock. -/
@[simp] theorem readings_logged (e : Event) (notes : List Note) :
    readings (.logged e :: notes) = readings notes + 1 :=
  List.countP_cons_of_pos rfl

/-- Later notes have their own text, with the times from the readings on that the notes before have left. -/
theorem texts_append (clock : Nat → String) (n : Nat) (notes more : List Note) :
    texts clock n (notes ++ more) = texts clock n notes ++ texts clock (n + readings notes) more := by
  induction notes generalizing n with
  | nil => exact String.empty_append.symm
  | cons note notes ih =>
    cases note with
    | message text => rw [List.cons_append, texts, texts, ih, readings_message, String.append_assoc]
    | logged e =>
      rw [List.cons_append, texts, texts, ih, readings_logged, String.append_assoc, Nat.add_right_comm,
        Nat.add_assoc n]

/-- No clock counts for notes without log lines. -/
theorem texts_of_timeless {notes : List Note} (timeless : readings notes = 0) (clock clock' : Nat → String)
    (n m : Nat) : texts clock n notes = texts clock' m notes := by
  induction notes with
  | nil => rfl
  | cons note notes ih =>
    cases note with
    | message text =>
      rw [readings_message] at timeless
      rw [texts, texts, ih timeless]
    | logged e =>
      rw [readings_logged] at timeless
      cases timeless

end Note

/-- A silent log has no notes. -/
theorem Verbosity.notes_silent (events : List Event) : Verbosity.silent.notes events = [] := by
  simp [Verbosity.notes, Verbosity.shows]

/-! ## Transcripts -/

/-- What is shown later stands behind what was shown before. -/
instance : Append Transcript := ⟨fun t u => ⟨t.out ++ u.out, t.err ++ u.err⟩⟩

namespace Transcript

@[simp] theorem out_append (t u : Transcript) : (t ++ u).out = t.out ++ u.out := rfl

@[simp] theorem err_append (t u : Transcript) : (t ++ u).err = t.err ++ u.err := rfl

@[ext]
theorem ext {t u : Transcript} (out : t.out = u.out) (err : t.err = u.err) : t = u := by
  cases t
  cases u
  cases out
  cases err
  rfl

theorem append_assoc (t u v : Transcript) : t ++ u ++ v = t ++ (u ++ v) :=
  ext String.append_assoc (List.append_assoc _ _ _)

theorem append_empty (t : Transcript) : t ++ {} = t := ext String.append_empty (List.append_nil _)

theorem empty_append (t : Transcript) : {} ++ t = t := ext String.empty_append (List.nil_append _)

def concat (ts : List Transcript) : Transcript :=
  ⟨String.join (ts.map (·.out)), ts.flatMap (·.err)⟩

/-- The texts of transcripts to the side, one after the other, where the clock has been read `n` times before. -/
def sideTexts (clock : Nat → String) : Nat → List Transcript → List String
  | _, [] => []
  | n, t :: ts => Note.texts clock n t.err :: sideTexts clock (n + Note.readings t.err) ts

/-- Transcripts one after the other have their texts to the side one after the other. -/
theorem texts_flatMap (clock : Nat → String) (n : Nat) (ts : List Transcript) :
    Note.texts clock n (ts.flatMap (·.err)) = String.join (sideTexts clock n ts) := by
  induction ts generalizing n with
  | nil => rfl
  | cons t ts ih => rw [List.flatMap_cons, Note.texts_append, ih, sideTexts, String.join_cons]

/-- Without log lines the text of each transcript is its own, whatever stands before it and whatever the clock. -/
theorem sideTexts_of_timeless {ts : List Transcript} (timeless : ∀ t ∈ ts, Note.readings t.err = 0)
    (clock clock' : Nat → String) (n : Nat) : sideTexts clock n ts = ts.map (·.sideText clock') := by
  induction ts generalizing n with
  | nil => rfl
  | cons t ts ih =>
    obtain ⟨first, others⟩ := List.forall_mem_cons.mp timeless
    rw [sideTexts, ih others, List.map_cons, Note.texts_of_timeless first clock clock' n 0, sideText]

theorem concat_cons (t : Transcript) (ts : List Transcript) : concat (t :: ts) = t ++ concat ts :=
  ext String.join_cons List.flatMap_cons

end Transcript

/-! ## Actions -/

namespace Action

variable {α β : Type}

/-- An action that comes to a result and shows something, whatever has been shown before. -/
def Ends (a : Action α) (r : Except String α) (shown : Transcript) : Prop :=
  ∀ before : Transcript, a.run.run before = (r, before ++ shown)

theorem ends_pure (x : α) : Ends (pure x) (.ok x) {} := fun before => by
  rw [Transcript.append_empty]
  rfl

theorem ends_throw (message : String) : Ends (throw message : Action α) (.error message) {} := fun before => by
  rw [Transcript.append_empty]
  rfl

theorem ends_say (text : String) : Ends (say text) (.ok ()) { out := text } := fun before => by
  refine Prod.ext rfl (Transcript.ext rfl ?_)
  exact (List.append_nil _).symm

theorem ends_notes (ns : List Note) : Ends (notes ns) (.ok ()) { err := ns } := fun before => by
  refine Prod.ext rfl (Transcript.ext ?_ rfl)
  exact String.append_empty.symm

theorem ends_note (text : String) : Ends (note text) (.ok ()) { err := [.message text] } := ends_notes _

/-- An action that ends well hands over its result, and what follows it is shown behind. -/
theorem Ends.bind {a : Action α} {f : α → Action β} {x : α} {r : Except String β} {shown more : Transcript}
    (first : Ends a (.ok x) shown) (then_ : Ends (f x) r more) : Ends (a >>= f) r (shown ++ more) := by
  intro before
  rw [ExceptT.run_bind, StateT.run_bind, first before, ← Transcript.append_assoc]
  exact then_ (before ++ shown)

/-- Nothing follows an action that is broken off. -/
theorem Ends.bind_error {a : Action α} {f : α → Action β} {message : String} {shown : Transcript}
    (first : Ends a (.error message) shown) : Ends (a >>= f) (.error message) shown := by
  intro before
  rw [ExceptT.run_bind, StateT.run_bind, first before]
  rfl

theorem ends_attempt_ok {x : α} : Ends (attempt (.ok x)) (.ok x) {} := ends_pure x

theorem ends_attempt_error (why : Failure) : Ends (attempt (.error why) : Action α) (.error why.message) {} :=
  ends_throw why.message

/-- A result is gone on with after its log. -/
theorem ends_logged_ok (log : Verbosity) {t : Traced α} {x : α} (h : t.result = .ok x) :
    Ends (logged log t) (.ok x) { err := log.notes t.events } := by
  rw [logged, h, ← Transcript.append_empty { err := log.notes t.events }]
  exact (ends_notes _).bind ends_attempt_ok

/-- The log of a step that fails is shown before the action breaks off. -/
theorem ends_logged_error (log : Verbosity) {t : Traced α} {why : Failure} (h : t.result = .error why) :
    Ends (logged log t) (.error why.message) { err := log.notes t.events } := by
  rw [logged, h, ← Transcript.append_empty { err := log.notes t.events }]
  exact (ends_notes _).bind (ends_attempt_error why)

/-- An action that ends well ends the run with the code zero. -/
theorem Ends.ending_ok {a : Action Unit} {shown : Transcript} (h : Ends a (.ok ()) shown) :
    a.ending = ⟨shown, 0⟩ := by
  rw [ending, h {}, Transcript.empty_append]

/-- An action that is broken off ends the run with its message to the side and the code one. -/
theorem Ends.ending_error {a : Action Unit} {message : String} {shown : Transcript}
    (h : Ends a (.error message) shown) :
    a.ending = ⟨{ shown with err := shown.err ++ [.message ("Error: " ++ message ++ "\n")] }, 1⟩ := by
  rw [ending, h {}, Transcript.empty_append]

end Action

end NameQuery
