import NameQuery.Proofs.Name.Continuation
import NameQuery.Proofs.Name.Fields
import NameQuery.Proofs.Name.Prior
import NameQuery.Proofs.Query.Recorded
import NameQuery.Proofs.Table.Store

/-!
# The order of predicates

A name says which fields it compares, and its arguments say with which values, in the same order. Two names
that compare the same fields with the same values in different orders, and say the same before and behind,
are refused for the same cause or have queries that find the same (`Store.find_permuted`). A field can be
compared more than once, and what stands behind can add predicates of its own.

The reading of a name goes through the predicates once and keeps their order (`Name.readWords_comparing`),
so the two queries differ in the order of their bindings only, the pairs of a field and a value. A row
matches if it agrees on all of them (`Store.find_of_bindings_perm`).
-/

set_option autoImplicit false

namespace NameQuery

open Name (IsField IsSmallWord Continues OpensAsFinder ofWords furtherWords)

/-! ## Names that compare fields -/

namespace Name

variable {columns fields : List String} {extent : Extent} {rest : String}

/-- The name that says columns, possibly `All` or `One`, then `By` and fields, and then any text. -/
def comparing (columns : List String) (extent : Extent) (fields : List String) (rest : String) : String :=
  "find" ++ runTogether columns ++ extent.text ++ "By" ++ runTogether fields ++ rest

/-- The name is spelled from its columns, its extent, `by` and its fields. -/
theorem comparing_eq : comparing columns extent fields rest =
    ofWords (columns ++ (extent.words ++ Keyword.by.word :: fields)) ++ rest := by
  have keyword : "By".toList = capitalized Keyword.by.word.toList := rfl
  apply String.toList_inj.mp
  simp only [comparing, ofWords, String.toList_append, toList_runTogether, Extent.toList_text, keyword,
    List.map_append, List.map_cons, List.flatMap_append, List.flatMap_cons, List.append_assoc]

/-- A name opens like a finder name whatever fields it compares. -/
theorem OpensAsFinder.of_comparing {fields' : List String}
    (opens : OpensAsFinder (comparing columns extent fields rest)) :
    OpensAsFinder (comparing columns extent fields' rest) := by
  have long : 6 ≤ ("find" ++ runTogether columns ++ extent.text ++ "By").toList.length := by
    have four : "find".toList.length = 4 := rfl
    have two : "By".toList.length = 2 := rfl
    simp only [String.toList_append, List.length_append]
    omega
  rw [comparing, String.append_assoc] at opens ⊢
  exact opens.of_append long

/-- The words of such a name. -/
theorem words?_comparing (small : ∀ w ∈ columns ++ fields, IsSmallWord w.toList) (continues : Continues rest)
    (opens : OpensAsFinder (comparing columns extent fields rest)) :
    words? (comparing columns extent fields rest) =
      some (columns ++ (extent.words ++ Keyword.by.word :: (fields ++ furtherWords rest))) := by
  have all : ∀ w ∈ columns ++ (extent.words ++ Keyword.by.word :: fields), IsSmallWord w.toList := by
    intro w hw
    simp only [List.mem_append, List.mem_cons] at hw
    rcases hw with hw | hw | rfl | hw
    · exact small w (List.mem_append_left _ hw)
    · exact Plan.isSmallWord_extent hw
    · exact Plan.isSmallWord_keyword .by
    · exact small w (List.mem_append_right _ hw)
  rw [comparing_eq] at opens ⊢
  rw [words?_append all continues opens]
  simp only [List.append_assoc, List.cons_append]

/-- The words behind the predicates are read as they would be without anything before them. -/
theorem readWords_comparing (named : ∀ w ∈ columns, IsField w) (compared : ∀ w ∈ fields, IsField w)
    (extent : Extent) (ws : List String) :
    let alone := read (.under .by) ws {}
    let whole := readWords (columns ++ (extent.words ++ Keyword.by.word :: (fields ++ ws))) {}
    whole.failure = alone.failure ∧
      whole.clauses = (Plan.clauses ⟨columns, extent, fields, none⟩).followedBy alone.clauses := by
  intro alone whole
  have taken : ∀ c : Clauses, read (.under .by) (fields ++ ws) c =
      alone.behind { c with filters := c.filters ++ fields.map (· ++ "=?") } := by
    intro c
    rw [read_by_append compared, ← read_followedBy, Clauses.followedBy_empty]
  have columnsTaken : whole = read .columns (extent.words ++ Keyword.by.word :: (fields ++ ws))
      { select := columns } := read_columns_append named _ _
  cases extent with
  | plain =>
    rw [columnsTaken, Extent.words, List.nil_append, read_keyword (by decide), taken]
    simp [Outcome.after, Outcome.behind, Plan.clauses]
  | all =>
    rw [columnsTaken, Extent.words, List.singleton_append, read_keyword (by decide),
      read_keyword (by decide), taken]
    simp [Outcome.after, Outcome.behind, Plan.clauses, Place.enter, Clauses.addEveryColumn, Clauses.addColumn]
  | one =>
    rw [columnsTaken, Extent.words, List.singleton_append, read_keyword (by decide),
      read_keyword (by decide), taken]
    simp [Outcome.after, Outcome.behind, Plan.clauses, Place.enter, Clauses.addEveryColumn, Clauses.addColumn,
      Clauses.limitToOne]

end Name

/-! ## Bindings -/

/-- The fields that a query compares, each with its value. -/
def Query.bindings (q : Query) : List (String × Value) := q.filterFields.zip q.values

namespace Store

variable {s : Store} {table : String}

/-- Queries that differ in the order of their bindings only find the same. -/
theorem find_of_bindings_perm {q q' : Query} (same : q' = { q with filter := q'.filter, values := q'.values })
    (fields : q.placeholderCount = q'.placeholderCount) (values : q.values.length = q'.values.length)
    (perm : q.bindings.Perm q'.bindings) : s.find table q = s.find table q' := by
  have agree : agreesOn q.filterFields q.values = agreesOn q'.filterFields q'.values :=
    funext fun row => perm.all_eq
  refine find_congr fields values (by rw [same]; rfl) fun _ rows => ?_
  rw [select, select, agree, same]
  rfl

end Store

/-! ## Permuted predicates -/

/-- The clauses of a name that compares the fields of pairs, with those of the text behind them. -/
def Name.comparingClauses (columns : List String) (extent : Extent) (pairs : List (String × Value))
    (more : Clauses) : Clauses :=
  (Plan.clauses ⟨columns, extent, pairs.map (·.1), none⟩).followedBy more

section

variable {columns : List String} {extent : Extent} {pairs : List (String × Value)} {rest : String}

/-- The bindings are the pairs, and behind them those of the other predicates. -/
theorem Query.bindings_comparing {more : Name.Clauses}
    (plain : ∀ t ∈ (Name.comparingClauses columns extent pairs more).filters, t ≠ "" ∧ 'A' ∉ t.toList)
    (further : List Value) :
    let unmarked := fun t : String => String.ofList (withoutMarks t.toList)
    (ofClauses (Name.comparingClauses columns extent pairs more) (pairs.map (·.2) ++ further)).bindings =
      pairs.map (fun p => (unmarked (p.1 ++ "=?"), p.2)) ++ (more.filters.map unmarked).zip further := by
  intro unmarked
  have filters : (Name.comparingClauses columns extent pairs more).filters =
      pairs.map (fun p => p.1 ++ "=?") ++ more.filters := by
    simp [Name.comparingClauses, Name.Clauses.followedBy, Plan.clauses]
  have values : (ofClauses (Name.comparingClauses columns extent pairs more)
      (pairs.map (·.2) ++ further)).values = pairs.map (·.2) ++ further := rfl
  rw [bindings, filterFields_ofClauses plain, values, filters, List.map_append, List.map_map,
    List.zip_append (by simp), List.zip_map']
  rfl

/-- The predicates of words that are read well have no capitals. -/
theorem Name.plain_filters_readWords {name : String} {ws : List String} (words : words? name = some ws)
    (ok : (readWords ws {}).failure = none) :
    ∀ t ∈ (readWords ws {}).clauses.filters, t ≠ "" ∧ 'A' ∉ t.toList := by
  have compiled : Query.ofName name [] = .ok _ := Query.ofName_eq_ok_iff.mpr ⟨ws, words, ok, rfl⟩
  obtain ⟨r, records, -⟩ := exists_records compiled
  have plain := records.plain_filters
  obtain ⟨-, words', -, -, -, -, -, clauses⟩ := records
  cases words.symm.trans words'
  rw [clauses]
  exact plain

/-- Whether a name that compares fields is refused, and for what, is a matter of the text behind them. -/
theorem Query.ofName_comparing (named : ∀ w ∈ columns, IsSmallWord w.toList ∧ IsField w)
    (compared : ∀ p ∈ pairs, IsSmallWord p.1.toList ∧ IsField p.1) (continues : Continues rest)
    (opens : OpensAsFinder (Name.comparing columns extent (pairs.map (·.1)) rest)) (args : List Value) :
    let name := Name.comparing columns extent (pairs.map (·.1)) rest
    let alone := Name.read (.under .by) (furtherWords rest) {}
    let clauses := Name.comparingClauses columns extent pairs alone.clauses
    (∀ why, alone.failure = some why → ofName name args = .error why) ∧
    (alone.failure = none → ofName name args = .ok (ofClauses clauses args) ∧
      ∀ t ∈ clauses.filters, t ≠ "" ∧ 'A' ∉ t.toList) := by
  intro name alone clauses
  have fields : ∀ w ∈ pairs.map (·.1), IsSmallWord w.toList ∧ IsField w := List.forall_mem_map.mpr compared
  have small : ∀ w ∈ columns ++ pairs.map (·.1), IsSmallWord w.toList := by
    intro w hw
    rcases List.mem_append.mp hw with hw | hw
    · exact (named w hw).1
    · exact (fields w hw).1
  have words := Name.words?_comparing small continues opens
  obtain ⟨failure, read⟩ := Name.readWords_comparing (fun w hw => (named w hw).2)
    (fun w hw => (fields w hw).2) extent (furtherWords rest)
  constructor
  · intro why failed
    exact ofName_eq_error_iff.mpr (.inr ⟨_, words, failure.trans failed⟩)
  · intro ok
    have plain := Name.plain_filters_readWords words (failure.trans ok)
    rw [read] at plain
    exact ⟨ofName_eq_ok_iff.mpr ⟨_, words, failure.trans ok, by rw [read]; rfl⟩, plain⟩

/-- **The order of predicates does not matter.** Two names say the same columns and possibly `All` or `One`
before `By`, compare the same fields with the same values in different orders, and go on with the same text
and the same further values. The grammar refuses them for the same cause, or their queries are answered
alike by every store. -/
theorem Store.find_permuted {pairs' : List (String × Value)} (perm : pairs.Perm pairs')
    (named : ∀ w ∈ columns, IsSmallWord w.toList ∧ IsField w)
    (compared : ∀ p ∈ pairs, IsSmallWord p.1.toList ∧ IsField p.1) (continues : Continues rest)
    (opens : OpensAsFinder (Name.comparing columns extent (pairs.map (·.1)) rest)) (further : List Value) :
    let compiled := fun pairs : List (String × Value) =>
      Query.ofName (Name.comparing columns extent (pairs.map (·.1)) rest) (pairs.map (·.2) ++ further)
    (∃ why, why.isGrammatical = true ∧ compiled pairs = .error why ∧ compiled pairs' = .error why) ∨
      ∃ q q', compiled pairs = .ok q ∧ compiled pairs' = .ok q' ∧
        ∀ (s : Store) (table : String), s.find table q = s.find table q' := by
  intro compiled
  have compared' : ∀ p ∈ pairs', IsSmallWord p.1.toList ∧ IsField p.1 :=
    fun p hp => compared p (perm.mem_iff.mpr hp)
  obtain ⟨refused, answered⟩ :=
    Query.ofName_comparing named compared continues opens (pairs.map (·.2) ++ further)
  obtain ⟨refused', answered'⟩ := Query.ofName_comparing named compared' continues opens.of_comparing
    (pairs'.map (·.2) ++ further)
  cases failure : (Name.read (.under .by) (furtherWords rest) {}).failure with
  | some why =>
    have grammatical := (Name.reads_read (.under .by) (furtherWords rest) {}).isGrammatical failure
    exact .inl ⟨why, grammatical, refused why failure, refused' why failure⟩
  | none =>
    obtain ⟨ok, plain⟩ := answered failure
    obtain ⟨ok', plain'⟩ := answered' failure
    refine .inr ⟨_, _, ok, ok', fun s table => ?_⟩
    apply Store.find_of_bindings_perm rfl
    · rw [Query.placeholderCount_ofClauses plain, Query.placeholderCount_ofClauses plain']
      simp [Name.comparingClauses, Name.Clauses.followedBy, Plan.clauses, perm.length_eq]
    · simp [Query.ofClauses, perm.length_eq]
    · rw [Query.bindings_comparing plain, Query.bindings_comparing plain']
      exact (perm.map _).append_right _

end

theorem Store.find_permuted_of_repeated_field :
    ∃ q q', Query.ofName "findIdOneByNameAgeNameAndCity"
        [.string "mike", .int 3, .string "anna", .null] = .ok q ∧
      Query.ofName "findIdOneByNameNameAgeAndCity"
        [.string "anna", .string "mike", .int 3, .null] = .ok q' ∧
      q.filter = "name=? AND age=? AND name=? AND city=?" ∧
      ∀ (s : Store) (table : String), s.find table q = s.find table q' := by
  let pairs : List (String × Value) := [("name", .string "mike"), ("age", .int 3), ("name", .string "anna")]
  let pairs' : List (String × Value) := [("name", .string "anna"), ("name", .string "mike"), ("age", .int 3)]
  have name : Name.comparing ["id"] .one (pairs.map (·.1)) "AndCity" = "findIdOneByNameAgeNameAndCity" := by
    decide +kernel
  have name' : Name.comparing ["id"] .one (pairs'.map (·.1)) "AndCity" =
      "findIdOneByNameNameAgeAndCity" := by
    decide +kernel
  have plain : ∀ w : String, IsPlainWord w → IsSmallWord w.toList ∧ IsField w :=
    fun w h => ⟨h.isSmallWord, h.field⟩
  have continues : Continues "AndCity" := by decide +kernel
  have opens : OpensAsFinder (Name.comparing ["id"] .one (pairs.map (·.1)) "AndCity") :=
    name ▸ Name.isFinderName_iff.mp (by decide +kernel)
  have perm : pairs.Perm pairs' := by decide
  have named : ∀ w ∈ ["id"], IsSmallWord w.toList ∧ IsField w :=
    fun w hw => plain w (by revert w; decide)
  have compared : ∀ p ∈ pairs, IsSmallWord p.1.toList ∧ IsField p.1 :=
    fun p hp => plain p.1 (by revert p; decide)
  have filter : Query.ofName "findIdOneByNameAgeNameAndCity"
      [.string "mike", .int 3, .string "anna", .null] = .ok ⟨"id,*", "name=? AND age=? AND name=? AND city=?",
        "", 1, 0, [.string "mike", .int 3, .string "anna", .null]⟩ := rfl
  have alike := find_permuted perm named compared continues opens [.null]
  dsimp only at alike
  rw [name, name'] at alike
  rcases alike with ⟨why, -, refused, -⟩ | ⟨q, q', ok, ok', same⟩
  · cases filter.symm.trans refused
  · cases filter.symm.trans ok
    exact ⟨_, _, ok, ok', rfl, same⟩

end NameQuery
