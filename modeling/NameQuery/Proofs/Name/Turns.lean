import NameQuery.Log
import NameQuery.Proofs.Name.Rules

/-!
# The turns of a reading

A reading goes over its words once, from left to right. The words before the first keyword are columns. From there
on the words fall into turns (`Turn`), one behind the other: a keyword, whose rule is entered, and the words that
this rule takes before the next one is entered. The entry of a rule is a step that has its keyword and all words
behind it (`Outcome.entries`), so the entries of a reading tell its turns (`entriesOf`).

What is proved holds of every reading, also of one that fails (`readWords_takes_turns`). A rule that hands over to
another one has taken fields under `by`, the word `by` under `ordered`, and nothing under the other keywords
(`Place.HandsOver`). What a reading leaves is what its turns write one after another, each from its own words
(`Turn.write`); under `by` every word of the turn is a predicate.

The turns of a reading are put together from the right: each rule of `Reads` takes a word into the turn that it
stands in, or opens a turn with its keyword (`TakesTurns`). That entries are suffixes of the words and get shorter
holds of any turns, whatever reading they come from.
-/

set_option autoImplicit false

namespace NameQuery.Name

/-- The entries of rules are the steps whose events have the message "finder rule", and the fields of the event are
the keyword and the words behind it. -/
theorem entry?_eq_some_iff {s : Step} {k : Keyword} {ws : List String} :
    s.entry? = some (k, ws) ↔ (Event.step s).message = "finder rule" ∧
      (Event.step s).fields = [("keyword", .bare k.word), ("remaining", .list ws)] := by
  cases s with
  | rule l vs => simp [Step.entry?, Event.message, Event.fields]
  | ignoredAfterField | ignoredAfterOrder => simp [Step.entry?, Event.message]

/-! ## Turns -/

/-- The words that the rule of a place takes before it hands over to a keyword. -/
def Place.HandsOver : Place → List String → Prop
  | .columns, taken => ∀ w ∈ taken, IsField w
  | .under .by, taken => ∀ w ∈ taken, IsField w
  | .under .ordered, taken => taken = [Keyword.by.word]
  | .under _, taken => taken = []

/-- What the rule of a place writes of the words that it takes. -/
def Place.write : Place → List String → Clauses → Clauses
  | .columns, taken, c => taken.foldl Clauses.addColumn c
  | .under .all, _, c => c.addEveryColumn
  | .under .one, _, c => c.addEveryColumn.limitToOne
  | .under .by, taken, c => taken.foldl Clauses.addPredicate c
  | .under .and, taken, c => (taken.take 1).foldl Clauses.addPredicate c
  | .under .ordered, taken, c =>
    match taken with
    | "by" :: w :: rest => c.addOrder (orderEntry w rest).1
    | _ => c

/-- A turn of a reading: a keyword whose rule is entered, and the words that the rule takes. -/
structure Turn where
  keyword : Keyword
  taken : List String

namespace Turn

def words (t : Turn) : List String := t.keyword.word :: t.taken

/-- The turn hands over to a keyword. -/
def HandsOver (t : Turn) : Prop := (Place.under t.keyword).HandsOver t.taken

def write (c : Clauses) (t : Turn) : Clauses := (Place.under t.keyword).write t.taken c

end Turn

/-- The entries of the rules that have the turns: each keyword with all the words behind it. -/
def entriesOf : List Turn → List (Keyword × List String)
  | [] => []
  | t :: ts => (t.keyword, t.taken ++ ts.flatMap Turn.words) :: entriesOf ts

/-- The words of turns, from a keyword on whose rule is entered, are a suffix of all of them. -/
theorem isSuffix_of_mem_entriesOf {turns : List Turn} {e : Keyword × List String} (h : e ∈ entriesOf turns) :
    e.1.word :: e.2 <:+ turns.flatMap Turn.words := by
  induction turns with
  | nil => cases h
  | cons t ts ih =>
    rcases List.mem_cons.mp h with rfl | h
    · exact List.suffix_refl _
    · exact (ih h).trans (List.suffix_append _ _)

/-- With each entry fewer words are left. -/
theorem pairwise_entriesOf (turns : List Turn) :
    (entriesOf turns).Pairwise fun e later => later.2.length < e.2.length := by
  induction turns with
  | nil => exact .nil
  | cons t ts ih =>
    refine .cons (fun later h => ?_) ih
    have within := (isSuffix_of_mem_entriesOf h).length_le
    rw [List.length_cons] at within
    calc later.2.length < (ts.flatMap Turn.words).length := within
      _ ≤ (t.taken ++ ts.flatMap Turn.words).length := (List.suffix_append _ _).length_le

/-- Each turn has a keyword of its own among the words. -/
theorem length_entriesOf_le (turns : List Turn) :
    (entriesOf turns).length ≤ (turns.flatMap Turn.words).countP (¬ IsField ·) := by
  induction turns with
  | nil => exact Nat.zero_le _
  | cons t ts ih =>
    have own : 1 ≤ t.words.countP (¬ IsField ·) :=
      List.countP_pos_iff.mpr ⟨t.keyword.word, List.mem_cons_self, by simp⟩
    rw [List.flatMap_cons, List.countP_append, entriesOf, List.length_cons, Nat.add_comm]
    exact Nat.add_le_add own ih

/-! ## The turns of a reading -/

/-- The words from a place on are those that its rule takes, and behind them the words of turns: the rules that
the reading enters. -/
structure TakesTurns (p : Place) (ws : List String) (c : Clauses) (o : Outcome) (taken : List String)
    (turns : List Turn) : Prop where
  split : ws = taken ++ turns.flatMap Turn.words
  entries : o.entries = entriesOf turns
  columns : p = .columns → ∀ w ∈ taken, IsField w
  hands : turns ≠ [] → p.HandsOver taken
  between : ∀ t ∈ turns.dropLast, t.HandsOver
  written : o.clauses = turns.foldl Turn.write (p.write taken c)

theorem write_nil (p : Place) (c : Clauses) : p.write [] c = p.enter c := by
  cases p with
  | columns => rfl
  | under k => cases k <;> rfl

/-- Before a keyword that may stand directly behind it, the rule of a place takes nothing. -/
theorem handsOver_nil {p : Place} (free : p ≠ .under .ordered) : p.HandsOver [] := by
  cases p with
  | columns => exact nofun
  | under k =>
    cases k with
    | «by» => exact nofun
    | ordered => exact absurd rfl free
    | all | one | and => rfl

/-- An `ordered` without `by` and one more word writes nothing. -/
theorem write_malformed {ws : List String} (short : ∀ w rest, ws ≠ Keyword.by.word :: w :: rest) (c : Clauses) :
    (Place.under .ordered).write ws c = c := by
  rw [Place.write]
  exact short

/-- Words behind which no rule is entered are all taken. -/
theorem TakesTurns.last {p : Place} {ws : List String} {c : Clauses} {o : Outcome}
    (columns : p = .columns → ∀ w ∈ ws, IsField w) (entries : o.entries = [])
    (written : o.clauses = p.write ws c) : TakesTurns p ws c o ws [] where
  split := (List.append_nil ws).symm
  entries := entries
  columns := columns
  hands := fun ne => absurd rfl ne
  between := nofun
  written := written

/-- A keyword that takes over opens a turn with the words that its rule takes. -/
theorem TakesTurns.opens {p : Place} {k : Keyword} {ws before taken : List String} {c : Clauses} {o : Outcome}
    {turns : List Turn} (hands : p.HandsOver before)
    (h : TakesTurns (.under k) ws (p.write before c) o taken turns) :
    TakesTurns p (before ++ k.word :: ws) c (o.after (.rule k ws)) before (⟨k, taken⟩ :: turns) where
  split := by rw [List.flatMap_cons, Turn.words, List.cons_append, ← h.split]
  entries := by rw [Outcome.entries_after_rule, h.entries, entriesOf, ← h.split]
  columns := by
    rintro rfl
    exact hands
  hands := fun _ => hands
  between := by
    cases turns with
    | nil => exact nofun
    | cons t ts =>
      rw [List.dropLast_cons_cons]
      exact List.forall_mem_cons.mpr ⟨h.hands (List.cons_ne_nil t ts), h.between⟩
  written := h.written

/-- Where fields are collected, a field is the first of the words that the rule takes. -/
theorem TakesTurns.field {p : Place} {w : String} {ws taken : List String} {c d : Clauses} {o : Outcome}
    {turns : List Turn} (field : IsField w) (collects : ∀ ws, p.HandsOver ws ↔ ∀ w ∈ ws, IsField w)
    (writes : p.write (w :: taken) c = p.write taken d) (h : TakesTurns p ws d o taken turns) :
    TakesTurns p (w :: ws) c o (w :: taken) turns where
  split := by rw [List.cons_append, ← h.split]
  entries := h.entries
  columns := fun hp => List.forall_mem_cons.mpr ⟨field, h.columns hp⟩
  hands := fun ne => (collects _).mpr (List.forall_mem_cons.mpr ⟨field, (collects _).mp (h.hands ne)⟩)
  between := h.between
  written := by rw [writes, h.written]

/-- Every reading takes turns. -/
theorem exists_takesTurns {p : Place} {ws : List String} {c : Clauses} {o : Outcome} (h : Reads p ws c o) :
    ∃ taken turns, TakesTurns p ws c o taken turns := by
  induction h with
  | ends => exact ⟨[], [], .last (fun _ => nofun) rfl (write_nil _ _).symm⟩
  | keyword free _ ih =>
    obtain ⟨taken, turns, takes⟩ := ih
    exact ⟨[], _, .opens (handsOver_nil free) (by rwa [write_nil])⟩
  | column named _ ih =>
    obtain ⟨taken, turns, takes⟩ := ih
    exact ⟨_, _, takes.field named (fun _ => Iff.rfl) rfl⟩
  | predicate named _ ih =>
    obtain ⟨taken, turns, takes⟩ := ih
    exact ⟨_, _, takes.field named (fun _ => Iff.rfl) rfl⟩
  | lastPredicate => exact ⟨_, [], .last nofun (entries_endInField _ _ _) rfl⟩
  | unknown needs => rcases needs with rfl | rfl <;> exact ⟨_, [], .last nofun rfl rfl⟩
  | orderKeyword _ ih =>
    obtain ⟨taken, turns, takes⟩ := ih
    exact ⟨[Keyword.by.word], _, TakesTurns.opens (p := .under .ordered) rfl takes⟩
  | orderField => exact ⟨_, [], .last nofun (entries_endInOrder _ _ _) rfl⟩
  | malformed short => exact ⟨_, [], .last nofun rfl (write_malformed short _).symm⟩

/-- Fields before the first keyword are all fields at the start. -/
theorem takeWhile_isField {fields : List String} (named : ∀ w ∈ fields, IsField w) (turns : List Turn) :
    (fields ++ turns.flatMap Turn.words).takeWhile (IsField ·) = fields := by
  rw [List.takeWhile_append_of_pos (by simpa using named)]
  cases turns with
  | nil => exact List.append_nil fields
  | cons t ts =>
    rw [List.flatMap_cons, Turn.words, List.cons_append, List.takeWhile_cons_of_neg (by simp), List.append_nil]

/-- **A reading goes over its words once, from left to right**, whether it gets through or fails, and whatever
clauses it starts from. The words are the fields before the first keyword and behind them the words of turns, none
of them in two turns and none left out; and the rules that are entered are those of the turns. Every turn but the
last takes what its rule may take before it hands over, and the clauses are what the columns and the turns write,
one after another. So each rule is entered at a keyword with all words behind it, further to the right than the rule
before, and no more rules are entered than there are keywords among the words. -/
theorem readWords_takes_turns (ws : List String) (c : Clauses) :
    ∃ turns : List Turn,
      ws = ws.takeWhile (IsField ·) ++ turns.flatMap Turn.words ∧
      (readWords ws c).entries = entriesOf turns ∧
      (∀ t ∈ turns.dropLast, t.HandsOver) ∧
      (readWords ws c).clauses =
        turns.foldl Turn.write ((ws.takeWhile (IsField ·)).foldl Clauses.addColumn c) ∧
      (∀ e ∈ (readWords ws c).entries, e.1.word :: e.2 <:+ ws) ∧
      (readWords ws c).entries.Pairwise (fun e later => later.2.length < e.2.length) ∧
      (readWords ws c).entries.length ≤ ws.countP (¬ IsField ·) := by
  obtain ⟨taken, turns, takes⟩ := exists_takesTurns (reads_read .columns ws c)
  have leading : ws.takeWhile (IsField ·) = taken := by
    rw [takes.split]
    exact takeWhile_isField (takes.columns rfl) turns
  have behind : turns.flatMap Turn.words <:+ ws := ⟨taken, takes.split.symm⟩
  have entries : (readWords ws c).entries = entriesOf turns := takes.entries
  refine ⟨turns, ?_, entries, takes.between, ?_, ?_, ?_, ?_⟩
  · rw [leading]
    exact takes.split
  · rw [leading]
    exact takes.written
  · intro e he
    rw [entries] at he
    exact (isSuffix_of_mem_entriesOf he).trans behind
  · rw [entries]
    exact pairwise_entriesOf turns
  · rw [entries]
    calc (entriesOf turns).length ≤ (turns.flatMap Turn.words).countP (¬ IsField ·) := length_entriesOf_le turns
      _ ≤ ws.countP (¬ IsField ·) := behind.sublist.countP_le

/-- A reading that fails in its fourth turn. -/
example : (readWords ["id", "by", "name", "and", "ordered", "by", "all", "age"] {}).entries =
    entriesOf [⟨.by, ["name"]⟩, ⟨.and, []⟩, ⟨.ordered, ["by"]⟩, ⟨.all, ["age"]⟩] := by
  decide

end NameQuery.Name
