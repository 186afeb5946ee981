import Mathlib
import NameQuery.Text.Blank

/-!
# Words between blank characters

The words of a text are determined by how the text is made of words and blank characters (`Text.Spaced`), and
every text is made of its words in this way (`Text.words_eq_iff`). Trimming a text changes nothing about its
words (`Text.words_trimmed`), and a text has a single word exactly if trimming leaves this word
(`Text.words_eq_singleton_iff`).
-/

set_option autoImplicit false

namespace NameQuery.Text

/-- Some characters, none of them blank. -/
def IsWord (w : List Char) : Prop := w ≠ [] ∧ ∀ c ∈ w, isBlank c = false

/-- A text that is made of words, with blank characters between them and wherever else. -/
inductive Spaced : List (List Char) → List Char → Prop
  | nil : Spaced [] []
  | blank {ws : List (List Char)} {c : Char} {cs : List Char} (hc : isBlank c = true) (rest : Spaced ws cs) :
      Spaced ws (c :: cs)
  | last {w : List Char} (hw : IsWord w) : Spaced [w] w
  | word {w : List Char} {ws : List (List Char)} {c : Char} {cs : List Char} (hw : IsWord w)
      (hc : isBlank c = true) (rest : Spaced ws cs) : Spaced (w :: ws) (w ++ c :: cs)

/-! ## The words of a text -/

/-- A blank character in front makes no word. -/
theorem words_blank_cons {c : Char} (hc : isBlank c = true) (cs : List Char) : words (c :: cs) = words cs := by
  rw [words, words, openingWord]
  simp only [hc, if_true, List.isEmpty_nil]

/-- A word goes on as long as no blank character comes. -/
theorem openingWord_append {w : List Char} (hw : ∀ c ∈ w, isBlank c = false) (cs : List Char) :
    openingWord (w ++ cs) = (w ++ (openingWord cs).1, (openingWord cs).2) := by
  induction w with
  | nil => rfl
  | cons c w ih =>
    obtain ⟨hc, hw⟩ := List.forall_mem_cons.mp hw
    rw [List.cons_append, openingWord, ih hw]
    simp only [hc, Bool.false_eq_true, if_false, List.cons_append]

theorem words_word {w : List Char} (hw : IsWord w) : words w = [w] := by
  have opening := openingWord_append hw.2 []
  rw [List.append_nil] at opening
  rw [words, opening]
  simp [openingWord, hw.1]

/-- A word ends at a blank character. -/
theorem words_word_append {w : List Char} (hw : IsWord w) {c : Char} (hc : isBlank c = true) (cs : List Char) :
    words (w ++ c :: cs) = w :: words cs := by
  have opening : openingWord (c :: cs) = ([], words cs) := by
    rw [words, openingWord]
    simp only [hc, if_true]
  rw [words, openingWord_append hw.2, opening]
  simp [hw.1]

/-- Words are found between blank characters, whatever these are and however many. -/
theorem Spaced.words_eq {ws : List (List Char)} {cs : List Char} (h : Spaced ws cs) : words cs = ws := by
  induction h with
  | nil => rfl
  | blank hc _ ih => rw [words_blank_cons hc, ih]
  | last hw => exact words_word hw
  | word hw hc _ ih => rw [words_word_append hw hc, ih]

/-- Every text is made of its words. -/
theorem spaced_words (cs : List Char) : Spaced (words cs) cs := by
  have split := List.takeWhile_append_dropWhile (p := (!isBlank ·)) (l := cs)
  have front : ∀ c ∈ cs.takeWhile (!isBlank ·), isBlank c = false := fun c mem => by
    simpa using List.mem_takeWhile_imp mem
  match rest : cs.dropWhile (!isBlank ·) with
  | [] =>
    rw [rest, List.append_nil] at split
    rw [split] at front
    by_cases empty : cs = []
    · subst empty
      exact .nil
    · rw [words_word ⟨empty, front⟩]
      exact .last ⟨empty, front⟩
  | c :: behind =>
    have hc : isBlank c = true := by
      have := List.head_dropWhile_not (!isBlank ·) (l := cs) (by rw [rest]; exact List.cons_ne_nil _ _)
      simpa [rest] using this
    have shorter : behind.length < cs.length := by
      have lengths := congrArg List.length split
      rw [rest, List.length_append, List.length_cons] at lengths
      omega
    have ih := spaced_words behind
    rw [← split, rest]
    by_cases empty : cs.takeWhile (!isBlank ·) = []
    · rw [empty, List.nil_append, words_blank_cons hc]
      exact .blank hc ih
    · rw [words_word_append ⟨empty, front⟩ hc]
      exact .word ⟨empty, front⟩ hc ih
termination_by cs.length

/-- A text has the words that it spaces. -/
theorem words_eq_iff {ws : List (List Char)} {cs : List Char} : words cs = ws ↔ Spaced ws cs :=
  ⟨fun h => h ▸ spaced_words cs, Spaced.words_eq⟩

/-! ## Trimming -/

/-- Blank characters in front change no words. -/
theorem Spaced.gap_append {ws : List (List Char)} {g cs : List Char} (hg : ∀ c ∈ g, isBlank c = true)
    (h : Spaced ws cs) : Spaced ws (g ++ cs) := by
  induction g with
  | nil => exact h
  | cons c g ih =>
    obtain ⟨hc, hg⟩ := List.forall_mem_cons.mp hg
    exact .blank hc (ih hg)

theorem spaced_gap {g : List Char} (hg : ∀ c ∈ g, isBlank c = true) : Spaced [] g := by
  simpa using Spaced.nil.gap_append hg

/-- Blank characters at the end change no words. -/
theorem Spaced.append_gap {ws : List (List Char)} {g cs : List Char} (hg : ∀ c ∈ g, isBlank c = true)
    (h : Spaced ws cs) : Spaced ws (cs ++ g) := by
  induction h with
  | nil => exact spaced_gap hg
  | blank hc _ ih => exact .blank hc ih
  | @last w hw =>
    cases g with
    | nil =>
      rw [List.append_nil]
      exact .last hw
    | cons c g =>
      obtain ⟨hc, hg⟩ := List.forall_mem_cons.mp hg
      exact .word hw hc (spaced_gap hg)
  | word hw hc _ ih =>
    rw [List.append_assoc, List.cons_append]
    exact .word hw hc ih

/-- A text is what is left of it by trimming, between blank characters. -/
theorem exists_trimmed (cs : List Char) :
    ∃ g g', cs = g ++ trimmed cs ++ g' ∧ (∀ c ∈ g, isBlank c = true) ∧ ∀ c ∈ g', isBlank c = true := by
  have front := List.takeWhile_append_dropWhile (p := isBlank) (l := cs)
  have back := List.takeWhile_append_dropWhile (p := isBlank) (l := (cs.dropWhile isBlank).reverse)
  refine ⟨cs.takeWhile isBlank, ((cs.dropWhile isBlank).reverse.takeWhile isBlank).reverse, ?_, ?_, ?_⟩
  · rw [trimmed, List.append_assoc, ← List.reverse_append, back, List.reverse_reverse, front]
  · exact fun c mem => List.mem_takeWhile_imp mem
  · exact fun c mem => List.mem_takeWhile_imp (List.mem_reverse.mp mem)

/-- Trimming leaves the words as they are. -/
theorem words_trimmed (cs : List Char) : words (trimmed cs) = words cs := by
  obtain ⟨g, g', split, hg, hg'⟩ := exists_trimmed cs
  have spaced := ((spaced_words (trimmed cs)).gap_append hg).append_gap hg'
  rw [← split] at spaced
  exact spaced.words_eq.symm

/-- A text that spaces no words is blank. -/
theorem Spaced.isBlank_of_nil {cs : List Char} (h : Spaced [] cs) : ∀ c ∈ cs, isBlank c = true := by
  generalize none : ([] : List (List Char)) = ws at h
  induction h with
  | nil => exact nofun
  | blank hc _ ih => exact List.forall_mem_cons.mpr ⟨hc, ih none⟩
  | last | word => cases none

/-- A text of a single word is this word between blank characters. -/
theorem Spaced.exists_of_singleton {w cs : List Char} (h : Spaced [w] cs) :
    IsWord w ∧ ∃ g g', cs = g ++ w ++ g' ∧ (∀ c ∈ g, isBlank c = true) ∧ ∀ c ∈ g', isBlank c = true := by
  generalize single : [w] = ws at h
  induction h with
  | nil => cases single
  | @blank _ c _ hc _ ih =>
    obtain ⟨hw, g, g', rfl, hg, hg'⟩ := ih single
    exact ⟨hw, c :: g, g', rfl, List.forall_mem_cons.mpr ⟨hc, hg⟩, hg'⟩
  | last hw =>
    cases single
    exact ⟨hw, [], [], by rw [List.nil_append, List.append_nil], nofun, nofun⟩
  | @word _ _ c cs hw hc rest =>
    cases single
    exact ⟨hw, [], c :: cs, rfl, nofun, List.forall_mem_cons.mpr ⟨hc, rest.isBlank_of_nil⟩⟩

theorem IsWord.reverse {w : List Char} (hw : IsWord w) : IsWord w.reverse :=
  ⟨List.reverse_ne_nil_iff.mpr hw.1, fun c mem => hw.2 c (List.mem_reverse.mp mem)⟩

/-- What is dropped in front of a word is the gap there. -/
theorem dropWhile_gap_word {g w : List Char} (hg : ∀ c ∈ g, isBlank c = true) (hw : IsWord w) (cs : List Char) :
    (g ++ (w ++ cs)).dropWhile isBlank = w ++ cs := by
  rw [List.dropWhile_append_of_pos hg]
  obtain ⟨c, w, rfl⟩ := List.exists_cons_of_ne_nil hw.1
  exact List.dropWhile_cons_of_neg (by simp [hw.2 c List.mem_cons_self])

/-- A word between blank characters is what trimming leaves. -/
theorem trimmed_gap_word_gap {g w g' : List Char} (hg : ∀ c ∈ g, isBlank c = true) (hw : IsWord w)
    (hg' : ∀ c ∈ g', isBlank c = true) : trimmed (g ++ w ++ g') = w := by
  have behind : ∀ c ∈ g'.reverse, isBlank c = true := fun c mem => hg' c (List.mem_reverse.mp mem)
  have back := dropWhile_gap_word behind hw.reverse []
  rw [List.append_nil] at back
  rw [trimmed, List.append_assoc, dropWhile_gap_word hg hw, List.reverse_append, back, List.reverse_reverse]

/-- A text has a single word exactly if trimming leaves this word. -/
theorem words_eq_singleton_iff {w cs : List Char} : words cs = [w] ↔ IsWord w ∧ trimmed cs = w := by
  constructor
  · intro h
    obtain ⟨hw, g, g', rfl, hg, hg'⟩ := (words_eq_iff.mp h).exists_of_singleton
    exact ⟨hw, trimmed_gap_word_gap hg hw hg'⟩
  · rintro ⟨hw, rfl⟩
    rw [← words_trimmed, words_word hw]

end NameQuery.Text
