import Mathlib
import NameQuery.Name.Words

/-!
# Words run together

A name is made of words by writing the first letter of each as a capital and leaving no space
(`capitalized`). What is proved: the words come back, if each of them opens with a small letter and
has no capital inside (`IsSmallWord`), whatever other characters it is made of (`words?_find`). The
name has to open like a finder name, which is a condition on the second letter of the first word.

Every word of every finder name is such a word (`isSmallWord_of_words?`).
-/

set_option autoImplicit false

namespace NameQuery.Name

/-! ## Letters -/

theorem isUpper_toUpper {c : Char} (h : c.isLower) : c.toUpper.isUpper = true := by
  rw [Char.isUpper_toUpper_eq_isAlpha, Char.isAlpha, h, Bool.or_true]

theorem toLower_toUpper {c : Char} (h : c.isLower) : c.toUpper.toLower = c := by
  rw [Char.toLower_toUpper_eq_toLower, Char.toLower_eq_of_not_isUpper (Char.not_isUpper_of_isLower h)]

/-! ## Words -/

/-- A word as it stands in a name. -/
def capitalized : List Char → List Char
  | [] => []
  | c :: cs => c.toUpper :: cs

/-- A word that opens with a small letter and has no capital after it. -/
inductive IsSmallWord : List Char → Prop
  | mk {c : Char} {cs : List Char} (opening : c.isLower) (rest : ∀ d ∈ cs, d.isUpper = false) :
      IsSmallWord (c :: cs)

theorem IsSmallWord.exists_cons {w : List Char} (h : IsSmallWord w) :
    ∃ c cs, w = c :: cs ∧ c.isLower = true := by
  cases h with
  | mk opening => exact ⟨_, _, rfl, opening⟩

theorem IsSmallWord.isUpper {w : List Char} (h : IsSmallWord w) : ∀ c ∈ w, c.isUpper = false := by
  cases h with
  | mk opening rest =>
    refine List.forall_mem_cons.mpr ⟨?_, rest⟩
    simpa using Char.not_isUpper_of_isLower opening

/-- Characters that are no capitals stay with the word before them. -/
theorem wordsFrom_append {cs : List Char} (h : ∀ c ∈ cs, c.isUpper = false) (rest : List Char) :
    wordsFrom (cs ++ rest) = (cs ++ (wordsFrom rest).1, (wordsFrom rest).2) := by
  induction cs with
  | nil => rfl
  | cons c cs ih =>
    have hc : c.isUpper = false := h c List.mem_cons_self
    have ihc := ih fun d hd => h d (List.mem_cons_of_mem _ hd)
    rw [List.cons_append, wordsFrom, ihc]
    simp only [hc, Bool.false_eq_true, if_false, List.cons_append]

/-- Words run together come apart again, before any text that opens with a capital or is empty. -/
theorem wordsFrom_capitalized_append {ws : List (List Char)} (h : ∀ w ∈ ws, IsSmallWord w)
    {rest : List Char} (opens : ∀ c ∈ rest.head?, c.isUpper = true) :
    wordsFrom (ws.flatMap capitalized ++ rest) = ([], ws ++ (wordsFrom rest).2) := by
  induction ws with
  | nil =>
    cases rest with
    | nil => rfl
    | cons c cs =>
      have upper : c.isUpper = true := opens c rfl
      simp only [List.flatMap_nil, List.nil_append, wordsFrom, upper, if_true]
  | cons w ws ih =>
    have behind := ih fun v hv => h v (List.mem_cons_of_mem _ hv)
    obtain @⟨c, cs, opening, small⟩ := h w List.mem_cons_self
    rw [List.flatMap_cons, capitalized, List.cons_append, List.cons_append, wordsFrom, List.append_assoc,
      wordsFrom_append small, behind]
    simp only [isUpper_toUpper opening, toLower_toUpper opening, if_true, List.append_nil,
      List.cons_append]

/-- Words run together come apart again. -/
theorem wordsFrom_capitalized {ws : List (List Char)} (h : ∀ w ∈ ws, IsSmallWord w) :
    wordsFrom (ws.flatMap capitalized) = ([], ws) := by
  have apart := @wordsFrom_capitalized_append ws h [] nofun
  rw [List.append_nil] at apart
  exact apart.trans (by simp [wordsFrom])

/-- A name that is made of words has these words. -/
theorem words?_find {w : List Char} {ws : List (List Char)} (h : ∀ v ∈ w :: ws, IsSmallWord v)
    (second : w[1]?.any Char.isLower = true) :
    words? (String.ofList ("find".toList ++ (w :: ws).flatMap capitalized)) =
      some ((w :: ws).map String.ofList) := by
  obtain @⟨c, cs, opening, small⟩ := h w List.mem_cons_self
  cases cs with
  | nil => cases second
  | cons d cs =>
    have lower : d.isLower = true := second
    have body : body? ("find".toList ++ ((c :: d :: cs) :: ws).flatMap capitalized) =
        some (((c :: d :: cs) :: ws).flatMap capitalized) := by
      show (if c.toUpper.isUpper && d.isLower then some _ else none) = _
      rw [isUpper_toUpper opening, lower]
      rfl
    rw [words?, String.toList_ofList, body, Option.map_some, wordsFrom_capitalized h]

/-- What stands before the first capital has no capital, and each word from there on is a small
word. -/
theorem isSmallWord_wordsFrom (cs : List Char) :
    (∀ c ∈ (wordsFrom cs).1, c.isUpper = false) ∧ ∀ w ∈ (wordsFrom cs).2, IsSmallWord w := by
  induction cs with
  | nil => exact ⟨nofun, nofun⟩
  | cons c cs ih =>
    obtain ⟨opening, words⟩ := ih
    by_cases upper : c.isUpper = true
    · have lower : c.toLower.isLower = true := by
        rw [Char.isLower_toLower_eq_isAlpha, Char.isAlpha, upper, Bool.true_or]
      simp only [wordsFrom, if_pos upper]
      exact ⟨nofun, List.forall_mem_cons.mpr ⟨.mk lower opening, words⟩⟩
    · simp only [wordsFrom, if_neg upper]
      exact ⟨List.forall_mem_cons.mpr ⟨by simpa using upper, opening⟩, words⟩

/-- The words of a finder name open with a small letter and have no capital after it. -/
theorem isSmallWord_of_words? {name : String} {ws : List String} (h : words? name = some ws) :
    ∀ w ∈ ws, IsSmallWord w.toList := by
  obtain ⟨body, -, rfl⟩ := Option.map_eq_some_iff.mp h
  intro w hw
  obtain ⟨v, hv, rfl⟩ := List.mem_map.mp hw
  rw [String.toList_ofList]
  exact (isSmallWord_wordsFrom body).2 v hv

end NameQuery.Name
