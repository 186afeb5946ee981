import NameQuery.Name.Grammar
import NameQuery.Query.Basic

/-!
# The rules of a reading

`read` decides at six places what a word means. Here the same reading is a relation with one rule
for each thing that can happen, whatever the place: the words end, a keyword takes over, a field is
taken, or the reading stops (`Reads`). Every reading follows these rules (`reads_read`), so a
property of all readings is proved by one induction with a case for each rule, and no proof about
readings opens `read` itself.

A keyword is a field nowhere and a field is a keyword nowhere (`IsField`): the rules exclude each
other, and what a rule requires of the words stands in it.
-/

set_option autoImplicit false

namespace NameQuery

namespace Keyword

/-- Different keywords have different words. -/
theorem word_injective {k l : Keyword} (h : k.word = l.word) : k = l := by
  have hk := ofWord?_word k
  rw [h, ofWord?_word l] at hk
  exact (Option.some.inj hk).symm

@[simp] theorem word_inj {k l : Keyword} : k.word = l.word ↔ k = l :=
  ⟨word_injective, fun h => h ▸ rfl⟩

end Keyword

def Direction.word : Direction → String
  | .ascending => "asc"
  | .descending => "desc"

namespace Name

/-! ## Fields -/

/-- A word that names a field: any word that is not one of the five keywords. -/
def IsField (w : String) : Prop := ∀ k : Keyword, k.word ≠ w

/-- A word names a field exactly if it is read as no keyword. -/
theorem isField_iff {w : String} : IsField w ↔ Keyword.ofWord? w = none := by
  constructor
  · intro h
    cases hw : Keyword.ofWord? w with
    | none => rfl
    | some k => exact absurd (Keyword.word_of_ofWord? hw) (h k)
  · intro h k hk
    rw [← hk, Keyword.ofWord?_word] at h
    cases h

instance : DecidablePred IsField := fun _ => decidable_of_iff _ isField_iff.symm

/-- The word of a keyword names no field. -/
@[simp] theorem not_isField_word (k : Keyword) : ¬ IsField k.word := fun h => h k rfl

/-- The words of directions name fields, where an order entry does not take them. -/
theorem isField_direction (d : Direction) : IsField d.word := by
  cases d <;> decide

/-! ## Order entries -/

/-- An order entry as the clauses have it. -/
def entryText : String × Option Direction → String
  | (field, none) => field
  | (field, some d) => field ++ " " ++ d.word

/-- The words that an order entry takes. -/
def entryWords : String × Option Direction → List String
  | (field, d) => field :: (d.map Direction.word).toList

/-- An order entry ends before some words: it has a direction, or they do not open with one. -/
def EntryEnds (d : Option Direction) (behind : List String) : Prop :=
  d = none → ∀ e : Direction, behind.head? ≠ some e.word

theorem entryEnds_nil (d : Option Direction) : EntryEnds d [] := nofun

/-- An order entry takes its words and leaves those that it ends before. -/
theorem orderEntry_of_entryEnds {d : Option Direction} {behind : List String} (h : EntryEnds d behind)
    (field : String) :
    orderEntry field ((d.map Direction.word).toList ++ behind) = (entryText (field, d), behind) := by
  have one : ∀ d : Direction, field ++ " " ++ d.word = field ++ (" " ++ d.word) :=
    fun d => String.append_assoc
  cases d with
  | none =>
    show orderEntry field behind = (field, behind)
    unfold orderEntry
    split
    · exact absurd rfl (h rfl .ascending)
    · exact absurd rfl (h rfl .descending)
    · rfl
  | some d => cases d <;> rw [entryText, one] <;> rfl

/-- Of any words an order entry takes a direction or none, and ends before the others. -/
theorem exists_entryEnds (ws : List String) :
    ∃ (d : Option Direction) (behind : List String),
      EntryEnds d behind ∧ ws = (d.map Direction.word).toList ++ behind := by
  by_cases h : ∃ d : Direction, ws.head? = some d.word
  · obtain ⟨d, hd⟩ := h
    obtain ⟨behind, rfl⟩ := List.head?_eq_some_iff.mp hd
    exact ⟨some d, behind, nofun, rfl⟩
  · exact ⟨none, ws, fun _ d hd => h ⟨d, hd⟩, rfl⟩

/-- An ending in an order entry writes the entry and ignores what stands behind it. -/
theorem endInOrder_of_entryEnds {d : Option Direction} {behind : List String} (h : EntryEnds d behind)
    (c : Clauses) (field : String) :
    endInOrder c field ((d.map Direction.word).toList ++ behind) =
      ⟨c.addOrder (entryText (field, d)), if behind.isEmpty then [] else [.ignoredAfterOrder behind], none⟩ := by
  rw [endInOrder, orderEntry_of_entryEnds h]

/-! ## Outcomes -/

/-- The keyword whose rule is entered in a step, and the words behind it. -/
def Step.entry? : Step → Option (Keyword × List String)
  | .rule k remaining => some (k, remaining)
  | .ignoredAfterField _ _ => none
  | .ignoredAfterOrder _ => none

namespace Outcome

@[simp] theorem done_clauses (c : Clauses) : (done c).clauses = c := rfl
@[simp] theorem failed_failure (c : Clauses) (e : Failure) : (failed c e).failure = some e := rfl
@[simp] theorem after_clauses (s : Step) (o : Outcome) : (o.after s).clauses = o.clauses := rfl
@[simp] theorem after_failure (s : Step) (o : Outcome) : (o.after s).failure = o.failure := rfl

/-- What a reading comes to, without its steps. -/
def result (o : Outcome) : Clauses × Option Failure := (o.clauses, o.failure)

@[simp] theorem result_after (s : Step) (o : Outcome) : (o.after s).result = o.result := rfl

/-- The rules that a reading enters, each with its keyword and the words behind it, in the order of the words. -/
def entries (o : Outcome) : List (Keyword × List String) := o.steps.filterMap Step.entry?

@[simp] theorem entries_after_rule (k : Keyword) (ws : List String) (o : Outcome) :
    (o.after (.rule k ws)).entries = (k, ws) :: o.entries := rfl

end Outcome

/-- No rule is entered behind a last predicate. -/
theorem entries_endInField (c : Clauses) (field : String) (rest : List String) :
    (endInField c field rest).entries = [] := by
  cases rest <;> rfl

/-- No rule is entered behind an order entry. -/
theorem entries_endInOrder (c : Clauses) (field : String) (rest : List String) :
    (endInOrder c field rest).entries = [] := by
  unfold endInOrder Outcome.entries
  dsimp only
  split <;> rfl

/-! ## Rules -/

attribute [ext] Clauses

/-- What the rule of a place writes before it looks at a word. -/
def Place.enter : Place → Clauses → Clauses
  | .under .all, c => c.addEveryColumn
  | .under .one, c => c.addEveryColumn.limitToOne
  | _, c => c

@[simp] theorem enter_columns (c : Clauses) : Place.columns.enter c = c := rfl

@[simp] theorem enter_by (c : Clauses) : (Place.under .by).enter c = c := rfl

/-- No rule writes predicates before it looks at a word. -/
theorem enter_filters (p : Place) (c : Clauses) : (p.enter c).filters = c.filters := by
  unfold Place.enter
  split <;> rfl

/-- No rule writes order entries before it looks at a word. -/
theorem enter_order (p : Place) (c : Clauses) : (p.enter c).order = c.order := by
  unfold Place.enter
  split <;> rfl

/-- No rule writes an offset. -/
theorem enter_offset (p : Place) (c : Clauses) : (p.enter c).offset = c.offset := by
  unfold Place.enter
  split <;> rfl

/-- Only `one` writes a limit, and a later `one` writes the same again. -/
theorem enter_limit (k : Keyword) (c : Clauses) (later : Prop) [Decidable later] :
    (if later then some 1 else ((Place.under k).enter c).limit) =
      if k = .one ∨ later then some 1 else c.limit := by
  have written : ((Place.under k).enter c).limit = if k = .one then some 1 else c.limit := by
    cases k <;> rfl
  by_cases h : later <;> simp [h, written]

/-- The places at which only a keyword may follow. -/
def Place.NeedsKeyword (p : Place) : Prop := p = .under .all ∨ p = .under .one

/-- Reading words from a place on, from some clauses, comes to an outcome. -/
inductive Reads : Place → List String → Clauses → Outcome → Prop
  /-- No words are left. -/
  | ends {p : Place} {c : Clauses} (free : p ≠ .under .ordered) : Reads p [] c (.done (p.enter c))
  /-- A keyword takes over, anywhere but directly after `ordered`. -/
  | keyword {p : Place} {k : Keyword} {ws : List String} {c : Clauses} {o : Outcome}
      (free : p ≠ .under .ordered) (rest : Reads (.under k) ws (p.enter c) o) :
      Reads p (k.word :: ws) c (o.after (.rule k ws))
  /-- A field before the first keyword is a column. -/
  | column {w : String} {ws : List String} {c : Clauses} {o : Outcome} (field : IsField w)
      (rest : Reads .columns ws (c.addColumn w) o) : Reads .columns (w :: ws) c o
  /-- A field under `by` is a predicate. -/
  | predicate {w : String} {ws : List String} {c : Clauses} {o : Outcome} (field : IsField w)
      (rest : Reads (.under .by) ws (c.addPredicate w) o) : Reads (.under .by) (w :: ws) c o
  /-- A field under `and` is a predicate and ends the reading. -/
  | lastPredicate {w : String} {ws : List String} {c : Clauses} (field : IsField w) :
      Reads (.under .and) (w :: ws) c (endInField c w ws)
  /-- A field may not follow `all` and `one`. -/
  | unknown {p : Place} {w : String} {ws : List String} {c : Clauses} (needs : p.NeedsKeyword)
      (field : IsField w) : Reads p (w :: ws) c (.failed (p.enter c) (.unknownContinuation w))
  /-- A keyword takes over after `ordered by`. -/
  | orderKeyword {k : Keyword} {ws : List String} {c : Clauses} {o : Outcome}
      (rest : Reads (.under k) ws c o) :
      Reads (.under .ordered) (Keyword.by.word :: k.word :: ws) c (o.after (.rule k ws))
  /-- A field after `ordered by` orders the rows and ends the reading. -/
  | orderField {w : String} {ws : List String} {c : Clauses} (field : IsField w) :
      Reads (.under .ordered) (Keyword.by.word :: w :: ws) c (endInOrder c w ws)
  /-- `ordered` without `by` and one more word. -/
  | malformed {ws : List String} {c : Clauses}
      (short : ∀ w rest, ws ≠ Keyword.by.word :: w :: rest) :
      Reads (.under .ordered) ws c (.failed c .malformedOrder)

/-- Every reading follows the rules. -/
theorem reads_read (p : Place) (ws : List String) (c : Clauses) : Reads p ws c (read p ws c) := by
  have taken : ∀ {w k}, Keyword.ofWord? w = some k → w = k.word :=
    fun h => (Keyword.word_of_ofWord? h).symm
  fun_induction read p ws c with
  | case1 | case4 | case7 | case10 | case13 => exact .ends (by decide)
  | case2 w ws c none ih => exact .column (isField_iff.mpr none) ih
  | case11 w ws c none ih => exact .predicate (isField_iff.mpr none) ih
  | case3 w ws c k some ih | case6 w ws c k some ih | case9 w ws c k some ih
  | case12 w ws c k some ih | case15 w ws c k some ih =>
    rw [taken some]
    exact .keyword (by decide) ih
  | case5 w ws c none => exact .unknown (.inl rfl) (isField_iff.mpr none)
  | case8 w ws c none => exact .unknown (.inr rfl) (isField_iff.mpr none)
  | case14 w ws c none => exact .lastPredicate (isField_iff.mpr none)
  | case16 w ws c none => exact .orderField (isField_iff.mpr none)
  | case17 w ws c k some ih =>
    rw [taken some]
    exact .orderKeyword ih
  | case18 ws c short => exact .malformed short

/-- The rules leave no choice: what they come to is the reading. -/
theorem Reads.read_eq {p : Place} {ws : List String} {c : Clauses} {o : Outcome}
    (h : Reads p ws c o) : read p ws c = o := by
  induction h with
  | @ends p c free =>
    cases p with
    | columns => rfl
    | under k => cases k <;> first | rfl | exact absurd rfl free
  | @keyword p k ws c o free _ ih =>
    cases p with
    | columns => simp only [read, Keyword.ofWord?_word, ← ih, Place.enter]
    | under l =>
      cases l <;> first
        | exact absurd rfl free
        | simp only [read, Keyword.ofWord?_word, ← ih, Place.enter]
  | column field _ ih => simp only [read, isField_iff.mp field, ih]
  | predicate field _ ih => simp only [read, isField_iff.mp field, ih]
  | lastPredicate field => simp only [read, isField_iff.mp field]
  | unknown needs field => rcases needs with rfl | rfl <;> simp only [read, isField_iff.mp field, Place.enter]
  | @orderKeyword k ws c o _ ih =>
    show read (.under .ordered) ("by" :: k.word :: ws) c = _
    simp only [read, Keyword.ofWord?_word, ih]
  | @orderField w ws c field =>
    show read (.under .ordered) ("by" :: w :: ws) c = _
    simp only [read, isField_iff.mp field]
  | malformed short =>
    rw [read]
    exact short

/-- A keyword hands the words behind it over to its rule. -/
theorem read_keyword {p : Place} (free : p ≠ .under .ordered) (k : Keyword) (ws : List String)
    (c : Clauses) : read p (k.word :: ws) c = (read (.under k) ws (p.enter c)).after (.rule k ws) :=
  (Reads.keyword free (reads_read (.under k) ws _)).read_eq

end Name

end NameQuery
