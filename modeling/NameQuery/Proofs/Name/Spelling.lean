import NameQuery.Proofs.Name.Canonical

/-!
# How names are spelled

A finder name is spelled from its words: `find`, and then each word with a capital (`ofWords`). What
is proved: the words of a name are its only spelling, and every list of words that can follow `find`
is the list of words of the name that it spells (`words?_bijective`). So names and word lists are
two forms of one thing, whatever characters the words are made of.

Which lists these are is said by `AreWords`, and which texts are finder names by `OpensAsFinder`, a
pattern on the first characters only. A text without the pattern is refused by the name itself; the
grammar never refuses a name in that way (`Query.ofName_eq_notAFinderName_iff`).
-/

set_option autoImplicit false

namespace NameQuery.Name

/-- A text that begins with `find`, a capital and a small letter. -/
def OpensAsFinder (name : String) : Prop :=
  ∃ c d rest, name.toList = "find".toList ++ c :: d :: rest ∧ c.isUpper = true ∧ d.isLower = true

/-- Words that can follow `find`: each opens with a small letter and has no capital, and the second
letter of the first one is small. -/
structure AreWords (ws : List String) : Prop where
  nonempty : ws ≠ []
  small : ∀ w ∈ ws, IsSmallWord w.toList
  second : ∀ w ∈ ws.head?, w.toList[1]?.any Char.isLower = true

/-- The name that words spell. -/
def ofWords (ws : List String) : String := "find" ++ runTogether ws

/-! ## From a name to its words -/

/-- What follows `find` is taken exactly from texts that open like a finder name. -/
theorem body?_eq_some_iff {cs body : List Char} :
    body? cs = some body ↔ ∃ c d rest, cs = "find".toList ++ body ∧ body = c :: d :: rest ∧
      c.isUpper = true ∧ d.isLower = true := by
  constructor
  · intro h
    unfold body? at h
    split at h
    case h_1 c d rest =>
      split at h
      case isTrue opens =>
        cases h
        exact ⟨c, d, rest, rfl, rfl, by simpa using opens⟩
      case isFalse => cases h
    case h_2 => cases h
  · rintro ⟨c, d, rest, rfl, rfl, upper, lower⟩
    show (if c.isUpper && d.isLower then _ else _) = _
    simp only [upper, lower, Bool.and_self, if_true]

/-- Finder names are told by their opening. -/
theorem isFinderName_iff {name : String} : isFinderName name = true ↔ OpensAsFinder name := by
  rw [isFinderName, Option.isSome_iff_exists]
  constructor
  · rintro ⟨body, h⟩
    obtain ⟨c, d, rest, heq, rfl, upper, lower⟩ := body?_eq_some_iff.mp h
    exact ⟨c, d, rest, heq, upper, lower⟩
  · rintro ⟨c, d, rest, heq, upper, lower⟩
    exact ⟨_, body?_eq_some_iff.mpr ⟨c, d, rest, heq, rfl, upper, lower⟩⟩

/-- A text is what stands before its first capital and the words from there on, with capitals. -/
theorem capitalized_wordsFrom (cs : List Char) :
    (wordsFrom cs).1 ++ (wordsFrom cs).2.flatMap capitalized = cs := by
  induction cs with
  | nil => rfl
  | cons c cs ih =>
    by_cases upper : c.isUpper = true
    · have back : c.toLower.toUpper = c := by
        rw [Char.toUpper_toLower_eq_toUpper, Char.toUpper_eq_of_not_isLower]
        exact Char.not_isLower_of_isUpper upper
      simp only [wordsFrom, if_pos upper, List.nil_append, List.flatMap_cons, capitalized, back,
        List.cons_append, ih]
    · simp only [wordsFrom, if_neg upper, List.cons_append, ih]

/-- A capital and a small letter open a word. -/
theorem exists_wordsFrom_cons {c d : Char} (upper : c.isUpper = true) (lower : d.isLower = true)
    (rest : List Char) :
    ∃ word words, wordsFrom (c :: d :: rest) = ([], (c.toLower :: d :: word) :: words) := by
  have inside : ¬ d.isUpper = true := Char.not_isUpper_of_isLower lower
  refine ⟨(wordsFrom rest).1, (wordsFrom rest).2, ?_⟩
  simp only [wordsFrom, if_pos upper, if_neg inside]

/-- Nothing of what follows `find` stands before its first capital: it has a word, and its words use it up. So a
name is refused for the characters that it opens with or not at all; cutting the rest into words cannot fail. -/
theorem wordsFrom_of_body? {cs body : List Char} (h : body? cs = some body) :
    (wordsFrom body).1 = [] ∧ (wordsFrom body).2 ≠ [] ∧ (wordsFrom body).2.flatMap capitalized = body := by
  obtain ⟨c, d, rest, -, rfl, upper, lower⟩ := body?_eq_some_iff.mp h
  obtain ⟨word, words, hwords⟩ := exists_wordsFrom_cons upper lower rest
  have spelled := capitalized_wordsFrom (c :: d :: rest)
  rw [hwords] at spelled ⊢
  exact ⟨rfl, List.cons_ne_nil _ _, spelled⟩

/-- The words of a name spell it. -/
theorem ofWords_words? {name : String} {ws : List String} (h : words? name = some ws) :
    AreWords ws ∧ ofWords ws = name := by
  have small := isSmallWord_of_words? h
  obtain ⟨body, hbody, rfl⟩ := Option.map_eq_some_iff.mp h
  obtain ⟨-, nonempty, spelled⟩ := wordsFrom_of_body? hbody
  obtain ⟨c, d, rest, heq, rfl, upper, lower⟩ := body?_eq_some_iff.mp hbody
  obtain ⟨word, words, hwords⟩ := exists_wordsFrom_cons upper lower rest
  refine ⟨⟨by simpa using nonempty, small, ?_⟩, ?_⟩
  · intro w hw
    rw [hwords] at hw
    cases hw
    simpa using lower
  · refine String.toList_inj.mp ?_
    rw [ofWords, String.toList_append, toList_runTogether, List.map_map, heq]
    simpa [Function.comp_def] using spelled

/-! ## From words to their name -/

/-- Words are the words of the name that they spell. -/
theorem words?_ofWords {ws : List String} (h : AreWords ws) : words? (ofWords ws) = some ws := by
  cases ws with
  | nil => exact absurd rfl h.nonempty
  | cons w ws =>
    have small : ∀ v ∈ w.toList :: ws.map String.toList, IsSmallWord v := by
      intro v hv
      rw [← List.map_cons] at hv
      obtain ⟨u, hu, rfl⟩ := List.mem_map.mp hv
      exact h.small u hu
    have spelled : ofWords (w :: ws) =
        String.ofList ("find".toList ++ (w.toList :: ws.map String.toList).flatMap capitalized) := by
      refine String.toList_inj.mp ?_
      rw [ofWords, String.toList_append, toList_runTogether, List.map_cons]
      exact String.toList_ofList.symm
    rw [spelled, words?_find small (h.second w rfl), ← List.map_cons, List.map_map]
    simp [Function.comp_def]

end NameQuery.Name

namespace NameQuery

open Name

/-! ## Names that are refused -/

/-- A reading fails for what the grammar raises, and for nothing else. -/
theorem Name.Reads.isGrammatical {p : Place} {ws : List String} {c : Clauses} {o : Outcome} {e : Failure}
    (h : Reads p ws c o) (failed : o.failure = some e) : e.isGrammatical = true := by
  induction h with
  | ends | lastPredicate | orderField => cases failed
  | keyword _ _ ih => exact ih failed
  | column _ _ ih => exact ih failed
  | predicate _ _ ih => exact ih failed
  | orderKeyword _ ih => exact ih failed
  | unknown | malformed =>
    cases failed
    rfl

/-- A name that is not compiled has no words, or its words are refused by the grammar. -/
theorem Query.ofName_eq_error_iff {name : String} {args : List Value} {why : Failure} :
    ofName name args = .error why ↔
      (words? name = none ∧ why = .notAFinderName name) ∨
        ∃ ws, words? name = some ws ∧ (readWords ws {}).failure = some why := by
  rw [ofName, compilation]
  cases words : words? name with
  | none => simp [eq_comm]
  | some ws =>
    dsimp only
    cases failed : (readWords ws {}).failure with
    | none => simp [failed]
    | some e => simp [failed]

/-- Only a text that is no finder name is refused as none, whatever its arguments. -/
theorem Query.ofName_eq_notAFinderName_iff {name other : String} {args : List Value} :
    ofName name args = .error (.notAFinderName other) ↔ words? name = none ∧ other = name := by
  rw [ofName_eq_error_iff]
  constructor
  · rintro (⟨none, same⟩ | ⟨ws, -, failed⟩)
    · exact ⟨none, Failure.notAFinderName.inj same⟩
    · have grammatical := (reads_read .columns ws {}).isGrammatical failed
      cases grammatical
  · rintro ⟨none, rfl⟩
    exact .inl ⟨none, rfl⟩

/-- A text without the opening of a finder name has no words, and no other text is without. -/
theorem Name.words?_eq_none_iff {name : String} : words? name = none ↔ ¬ OpensAsFinder name := by
  rw [← isFinderName_iff, isFinderName, words?, Option.map_eq_none_iff, Bool.not_eq_true,
    Option.isSome_eq_false_iff, Option.isNone_iff_eq_none]

/-- **Cutting names into words is a bijection** between finder names and the word lists that can
follow `find`: the texts with words are those that open like a finder name, every other one is
refused by itself; the words of a name spell it, and the words of a spelled name are those that
spelled it. -/
theorem Name.words?_bijective :
    (∀ name, ((∃ ws, words? name = some ws) ↔ isFinderName name = true) ∧
      (isFinderName name = true ↔ OpensAsFinder name) ∧
      (∀ args other, Query.ofName name args = .error (.notAFinderName other) ↔
        ¬ OpensAsFinder name ∧ other = name)) ∧
    (∀ name ws, words? name = some ws → AreWords ws ∧ ofWords ws = name) ∧
    (∀ ws, AreWords ws → words? (ofWords ws) = some ws) := by
  refine ⟨fun name => ⟨?_, isFinderName_iff, fun args other => ?_⟩, fun name ws => ofWords_words?,
    fun ws => words?_ofWords⟩
  · rw [isFinderName, ← Option.isSome_iff_exists, words?, Option.isSome_map]
  · rw [Query.ofName_eq_notAFinderName_iff, words?_eq_none_iff]

/-- Digits, underscores and letters beyond ASCII stay inside their word. -/
example : words? "findByUser_idÄndZip5" = some ["by", "user_idÄnd", "zip5"] := by decide +kernel

end NameQuery
