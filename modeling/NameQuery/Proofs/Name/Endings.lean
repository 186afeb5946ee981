import NameQuery.Proofs.Name.Continuation
import NameQuery.Proofs.Name.Derivation
import NameQuery.Proofs.Name.Fields

/-!
# Words behind the end of a reading

A reading can end before its words do, in two ways (`Ending`): in the one field of `and`, or in an order entry.
Which words end in one is said by the places that the words before it lead to (`EndsIn`). These are all the words
that are read well and that nothing behind them changes.

Nothing that stands behind an ending is looked at, however malformed it is: it raises no failure and adds no
clause, neither as words nor as the rest of a name (`finished_clause_ignores_rest`). There is one exception, the
word right behind an order entry that has no direction yet: `asc` and `desc` become its direction (`EntryEnds`).
-/

set_option autoImplicit false

namespace NameQuery.Name

/-- How a reading can end before its words do. -/
inductive Ending
  /-- In the one field of `and`. -/
  | field
  /-- In an order entry, with the direction that it took. -/
  | order (direction : Option Direction)
deriving DecidableEq

/-- The words that an ending ignores: any, but an order entry has to end before them. -/
def Ending.Ignores : Ending → List String → Prop
  | .field, _ => True
  | .order d, ws => EntryEnds d ws

/-- The words are read up to an ending, with any words behind it that it ignores. -/
inductive EndsIn : List String → Ending → Prop
  | field {before : List String} {w : String} (reached : Reached before (.under .and)) (named : IsField w)
      (ignored : List String) : EndsIn (before ++ w :: ignored) .field
  | order {before ignored : List String} {w : String} {d : Option Direction}
      (reached : Reached before (.under .ordered)) (named : IsField w) (ends : EntryEnds d ignored) :
      EndsIn (before ++ Keyword.by.word :: (entryWords (w, d) ++ ignored)) (.order d)

/-- An ending may stand behind all words. -/
theorem Ending.ignores_nil (ending : Ending) : ending.Ignores [] := by
  cases ending with
  | field => trivial
  | order d => exact entryEnds_nil d

/-- Words that open with a keyword are ignored by any ending, since no direction is a keyword. -/
theorem Ending.ignores_keyword (ending : Ending) (k : Keyword) (ws : List String) :
    ending.Ignores (k.word :: ws) := by
  cases ending with
  | field => trivial
  | order d =>
    intro _ e same
    exact isField_direction e k (Option.some.inj same)

/-- Words that are ignored can be followed by more of them. -/
theorem Ending.Ignores.append {ending : Ending} {ws rest : List String} (h : ending.Ignores ws)
    (hrest : ending.Ignores rest) : ending.Ignores (ws ++ rest) := by
  cases ending with
  | field => trivial
  | order d =>
    cases ws with
    | nil => exact hrest
    | cons w ws => exact h

/-! ## Readings that end -/

/-- Whatever words an ending ignores, the reading comes to the same. -/
theorem EndsIn.exists_result {ws : List String} {ending : Ending} (h : EndsIn ws ending) (c : Clauses) :
    ∃ d, ∀ rest, ending.Ignores rest → (readWords (ws ++ rest) c).result = (d, none) := by
  cases h with
  | @field _ w reached named ignored =>
    obtain ⟨d, hd⟩ := Name.readWords_append reached c
    refine ⟨d.addPredicate w, fun rest _ => ?_⟩
    rw [List.append_assoc, List.cons_append, hd, (Reads.lastPredicate named).read_eq]
    rfl
  | @order _ ignored w direction reached named ends =>
    obtain ⟨d, hd⟩ := Name.readWords_append reached c
    refine ⟨d.addOrder (entryText (w, direction)), fun rest hrest => ?_⟩
    have ends : EntryEnds direction (ignored ++ rest) :=
      @Ending.Ignores.append (.order direction) _ _ ends hrest
    rw [List.append_assoc, List.cons_append, List.append_assoc, entryWords, List.cons_append, hd,
      (Reads.orderField named).read_eq, endInOrder_of_entryEnds ends]
    rfl

/-- Words behind an ending change nothing in a reading that gets through anyway. -/
theorem EndsIn.readWords_append {ws rest : List String} {ending : Ending} (h : EndsIn ws ending)
    (ignores : ending.Ignores rest) (c : Clauses) :
    (readWords ws c).failure = none ∧ (readWords (ws ++ rest) c).failure = none ∧
      (readWords (ws ++ rest) c).clauses = (readWords ws c).clauses := by
  obtain ⟨d, hd⟩ := h.exists_result c
  have whole := hd rest ignores
  have alone := hd [] ending.ignores_nil
  rw [List.append_nil] at alone
  exact ⟨congrArg Prod.snd alone, congrArg Prod.snd whole,
    (congrArg Prod.fst whole).trans (congrArg Prod.fst alone).symm⟩

/-- A name that ends is compiled to the same query with any such text behind it. -/
theorem EndsIn.ofName_append {ws : List String} {ending : Ending} (h : EndsIn ws ending) {name rest : String}
    (words : words? name = some ws) (continues : Continues rest)
    (ignores : ending.Ignores (furtherWords rest)) (args : List Value) :
    ∃ q, Query.ofName name args = .ok q ∧ Query.ofName (name ++ rest) args = .ok q := by
  obtain ⟨ok, whole, clauses⟩ := h.readWords_append ignores {}
  refine ⟨_, Query.ofName_eq_ok_iff.mpr ⟨ws, words, ok, rfl⟩, Query.ofName_eq_ok_iff.mpr ?_⟩
  exact ⟨_, words?_append_of_words? words continues, whole, by rw [clauses]⟩

/-- Words that are read well end in one of the two ways, or they lead to a place at which a keyword may follow. -/
theorem Reads.endsIn_or_reached {p : Place} {ws : List String} {c : Clauses} {o : Outcome} (h : Reads p ws c o)
    (ok : o.failure = none) : ∀ {before : List String}, Reached before p →
      (∃ ending, EndsIn (before ++ ws) ending) ∨
        ∃ place, place ≠ .under .ordered ∧ Reached (before ++ ws) place := by
  induction h with
  | ends free =>
    intro before reached
    exact .inr ⟨_, free, by rwa [List.append_nil]⟩
  | @keyword _ k _ _ _ free _ ih =>
    intro before reached
    simpa using ih ok (.keyword reached free k)
  | column named _ ih =>
    intro before reached
    simpa using ih ok (.column reached named)
  | predicate named _ ih =>
    intro before reached
    simpa using ih ok (.predicate reached named)
  | @orderKeyword k _ _ _ _ ih =>
    intro before reached
    simpa using ih ok (.orderKeyword reached k)
  | lastPredicate named =>
    intro before reached
    exact .inl ⟨_, .field reached named _⟩
  | @orderField w ws _ named =>
    intro before reached
    obtain ⟨d, rest, ends, rfl⟩ := exists_entryEnds ws
    exact .inl ⟨_, .order reached named ends⟩
  | unknown | malformed => cases ok

/-- Where a keyword may follow, `all` adds a column. -/
theorem Reached.clauses_append_all {ws : List String} {place : Place} (h : Reached ws place)
    (free : place ≠ .under .ordered) (c : Clauses) :
    (readWords (ws ++ [Keyword.all.word]) c).clauses = (readWords ws c).clauses.addEveryColumn := by
  obtain ⟨d, hd⟩ := Name.readWords_append h c
  have before : (readWords ws c).clauses = place.enter d := by
    have result := hd []
    rw [List.append_nil, (Reads.ends free).read_eq] at result
    exact congrArg Prod.fst result
  have behind := congrArg Prod.fst (hd [Keyword.all.word])
  rw [read_keyword free] at behind
  rw [before]
  exact behind

/-- **What stands behind a finished clause has no say.** Words that are read up to the field of an `and`, or up to
an order entry, are read well, and any words behind them change nothing, if only they do not open with a direction
that the order entry still lacks. A name of such words is compiled, and with any text behind it that opens with a
capital it is the same query. And the words that are read well and are not of this kind are changed by what
follows: by one more `all`. -/
theorem finished_clause_ignores_rest (ws : List String) :
    (∀ ending, EndsIn ws ending →
      (∀ c rest, ending.Ignores rest →
        (readWords ws c).failure = none ∧ (readWords (ws ++ rest) c).failure = none ∧
          (readWords (ws ++ rest) c).clauses = (readWords ws c).clauses) ∧
      ∀ name args rest, words? name = some ws → Continues rest → ending.Ignores (furtherWords rest) →
        ∃ q, Query.ofName name args = .ok q ∧ Query.ofName (name ++ rest) args = .ok q) ∧
    ∀ c, (readWords ws c).failure = none →
      ((∃ ending, EndsIn ws ending) ↔
        (readWords (ws ++ [Keyword.all.word]) c).clauses = (readWords ws c).clauses) := by
  refine ⟨fun ending ends => ⟨fun c rest ignores => ends.readWords_append ignores c, ?_⟩,
    fun c ok => ⟨?_, fun unchanged => ?_⟩⟩
  · intro name args rest words continues ignores
    exact ends.ofName_append words continues ignores args
  · rintro ⟨ending, ends⟩
    exact (ends.readWords_append (ending.ignores_keyword .all []) c).2.2
  · refine ((reads_read .columns ws c).endsIn_or_reached ok .start).resolve_right ?_
    rintro ⟨place, free, reached⟩
    rw [List.nil_append] at reached
    have longer := congrArg (fun d => d.select.length) (reached.clauses_append_all free c)
    rw [unchanged] at longer
    simp [Clauses.addEveryColumn, Clauses.addColumn] at longer

/-- Behind the field of `and` an `ordered` that would be malformed, behind an order entry a text that only opens
like a direction. -/
theorem finished_clause_ignores_malformed_rest :
    (readWords (["by", "name", "and", "status"] ++ ["ordered"]) {}).failure = none ∧
      ∃ q, Query.ofName "findAllOrderedById" [] = .ok q ∧
        Query.ofName ("findAllOrderedById" ++ "AscendingAsc") [] = .ok q := by
  have reached : Reached ["by", "name"] (.under .by) :=
    .predicate (.keyword .start (by decide) .by) (by decide)
  have field : EndsIn ["by", "name", "and", "status"] .field :=
    .field (.keyword reached (by decide) .and) (by decide) []
  have ordered : Reached ["all", "ordered"] (.under .ordered) :=
    .keyword (.keyword .start (by decide) .all) (by decide) .ordered
  have entry : EndsIn ["all", "ordered", "by", "id"] (.order none) :=
    @EndsIn.order _ [] "id" none ordered (by decide) (entryEnds_nil none)
  refine ⟨(((finished_clause_ignores_rest _).1 _ field).1 {} ["ordered"] trivial).2.1, ?_⟩
  refine ((finished_clause_ignores_rest _).1 _ entry).2 _ [] "AscendingAsc" (by decide +kernel)
    (by decide +kernel) ?_
  intro _ d
  cases d <;> decide +kernel

end NameQuery.Name
