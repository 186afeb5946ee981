import NameQuery.Proofs.Name.Spelling

/-!
# Names that go on

A name can go on behind its words with any text that opens with a capital: the words before it stay
what they are, and the text adds its own (`words?_append`).
-/

set_option autoImplicit false

namespace NameQuery.Name

/-- A text that can stand behind the words of a name: it opens with a capital, or is empty. -/
def Continues (rest : String) : Prop := ∀ c ∈ rest.toList.head?, c.isUpper = true

instance (rest : String) : Decidable (Continues rest) :=
  decidable_of_iff (rest.toList.head?.all Char.isUpper = true) (Option.all_eq_true _ _)

/-- A text of six characters opens like a finder name whatever stands behind it, or never. -/
theorem OpensAsFinder.of_append {start text text' : String} (long : 6 ≤ start.toList.length)
    (opens : OpensAsFinder (start ++ text)) : OpensAsFinder (start ++ text') := by
  obtain ⟨c, d, others, spelled, upper, lower⟩ := opens
  have begins : start.toList <+: (start ++ text).toList :=
    String.toList_append ▸ List.prefix_append _ _
  have opens : "find".toList ++ [c, d] <+: (start ++ text).toList :=
    spelled ▸ ⟨others, List.append_assoc ..⟩
  obtain ⟨more, opening⟩ := List.prefix_of_prefix_length_le opens begins long
  refine ⟨c, d, more ++ text'.toList, ?_, upper, lower⟩
  rw [String.toList_append, ← opening]
  simp

/-- The words of a text that stands behind the words of a name. -/
def furtherWords (rest : String) : List String := (wordsFrom rest.toList).2.map String.ofList

/-- A name that goes on has its words and those of the text that it goes on with. -/
theorem words?_append {ws : List String} {rest : String} (small : ∀ w ∈ ws, IsSmallWord w.toList)
    (continues : Continues rest) (opens : OpensAsFinder (ofWords ws ++ rest)) :
    words? (ofWords ws ++ rest) = some (ws ++ furtherWords rest) := by
  let body := (ws.map String.toList).flatMap capitalized ++ rest.toList
  have spelled : (ofWords ws ++ rest).toList = "find".toList ++ body := by
    simp only [ofWords, String.toList_append, toList_runTogether, List.append_assoc, body]
  have found : body? (ofWords ws ++ rest).toList = some body := by
    obtain ⟨c, d, others, text, upper, lower⟩ := opens
    have same : body = c :: d :: others := List.append_cancel_left (spelled.symm.trans text)
    exact body?_eq_some_iff.mpr ⟨c, d, others, spelled, same, upper, lower⟩
  have words : ∀ w ∈ ws.map String.toList, IsSmallWord w := by
    intro w hw
    obtain ⟨v, hv, rfl⟩ := List.mem_map.mp hw
    exact small v hv
  rw [words?, found, Option.map_some, wordsFrom_capitalized_append words continues, List.map_append,
    List.map_map, furtherWords]
  simp [Function.comp_def]

/-- A name that can be cut into words can be with any such text behind it. -/
theorem words?_append_of_words? {name rest : String} {ws : List String} (words : words? name = some ws)
    (continues : Continues rest) : words? (name ++ rest) = some (ws ++ furtherWords rest) := by
  have opens : OpensAsFinder (name ++ rest) := by
    have finder : isFinderName name = true := by
      rw [isFinderName, ← Option.isSome_map, ← words?, words]
      rfl
    obtain ⟨c, d, others, spelled, upper, lower⟩ := isFinderName_iff.mp finder
    exact ⟨c, d, others ++ rest.toList, by rw [String.toList_append, spelled]; simp, upper, lower⟩
  obtain ⟨small, spelled⟩ := ofWords_words? words
  rw [← spelled] at opens ⊢
  exact words?_append small.small continues opens

end NameQuery.Name
