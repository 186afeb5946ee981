import Mathlib

/-!
# Words between gaps

The words of a text are what stands between its spaces and commas, where anything does (`wordsIn`).
Where a text ends with a gap or the next one begins with one, the words of the two together are those
of the one and those of the other (`wordsOf_append`), so that the words of a joined text are those of
its pieces and of its separator (`mem_wordsOf_intercalate`). Characters that stand together without a
gap stand together in a word (`exists_word_of_run`), so what is known of the words of a text is known of
its characters.
-/

set_option autoImplicit false

namespace NameQuery.Text

/-- A character between words. -/
def isGap (c : Char) : Bool := c = ' ' || c = ','

def wordsIn (cs : List Char) : List (List Char) := (cs.splitOnP isGap).filter fun w => !w.isEmpty

/-- A text without gaps is a word. -/
theorem wordsIn_eq_singleton {cs : List Char} (h : ∀ c ∈ cs, isGap c = false) (ne : cs ≠ []) :
    wordsIn cs = [cs] := by
  rw [wordsIn, List.splitOnP_eq_singleton h]
  simp [ne]

/-- A gap ends a word. -/
theorem wordsIn_append_cons {c : Char} (h : isGap c = true) (before behind : List Char) :
    wordsIn (before ++ c :: behind) = wordsIn before ++ wordsIn behind := by
  rw [wordsIn, List.splitOnP_append_cons _ _ h, List.filter_append]
  rfl

/-- A text that is empty or begins with a gap. -/
def BeginsWithGap (cs : List Char) : Prop := ∀ c ∈ cs.head?, isGap c = true

/-- A text that is empty or ends with a gap. -/
def EndsWithGap (cs : List Char) : Prop := ∀ c ∈ cs.getLast?, isGap c = true

theorem BeginsWithGap.append {before behind : List Char} (hb : BeginsWithGap before)
    (h : BeginsWithGap behind) : BeginsWithGap (before ++ behind) := by
  cases before with
  | nil => exact h
  | cons c cs => exact hb

theorem beginsWithGap_append {before : List Char} (first : before.head?.any isGap = true)
    (behind : List Char) : BeginsWithGap (before ++ behind) := by
  cases before with
  | nil => cases first
  | cons c cs =>
    rintro d ⟨⟩
    exact first

theorem endsWithGap_of_any {cs : List Char} (last : cs.getLast?.any isGap = true) :
    EndsWithGap cs := by
  intro c hc
  rwa [hc] at last

/-- A text that begins with a gap adds its words to those before it. -/
theorem wordsIn_append_of_beginsWithGap (before : List Char) {behind : List Char}
    (h : BeginsWithGap behind) : wordsIn (before ++ behind) = wordsIn before ++ wordsIn behind := by
  cases behind with
  | nil => simp [wordsIn]
  | cons c cs =>
    have gap : isGap c = true := h c rfl
    have alone : wordsIn (c :: cs) = wordsIn cs := wordsIn_append_cons gap [] cs
    rw [wordsIn_append_cons gap, alone]

/-- A text that ends with a gap has its words before those behind it. -/
theorem wordsIn_append_of_endsWithGap {before : List Char} (h : EndsWithGap before)
    (behind : List Char) : wordsIn (before ++ behind) = wordsIn before ++ wordsIn behind := by
  rcases List.eq_nil_or_concat before with rfl | ⟨cs, c, rfl⟩
  · rfl
  · have gap : isGap c = true := h c (by simp)
    have alone : wordsIn (cs ++ [c]) = wordsIn cs := by
      rw [wordsIn_append_cons gap]
      simp [wordsIn]
    rw [List.concat_eq_append, alone, List.append_assoc, List.singleton_append,
      wordsIn_append_cons gap]

/-! ## Words as texts -/

/-- The words of a text, as texts. -/
def wordsOf (text : String) : List String := (wordsIn text.toList).map String.ofList

/-- A text without a gap is one word. -/
theorem wordsOf_eq_singleton {text : String} (h : ∀ c ∈ text.toList, isGap c = false)
    (ne : text.toList ≠ []) : wordsOf text = [text] := by
  rw [wordsOf, wordsIn_eq_singleton h ne, List.map_singleton, String.ofList_toList]

/-- Two texts with a gap between them have the words of both. -/
theorem wordsOf_append {before behind : String}
    (h : EndsWithGap before.toList ∨ BeginsWithGap behind.toList) :
    wordsOf (before ++ behind) = wordsOf before ++ wordsOf behind := by
  rw [wordsOf, String.toList_append]
  rcases h with h | h
  · rw [wordsIn_append_of_endsWithGap h, List.map_append]
    rfl
  · rw [wordsIn_append_of_beginsWithGap _ h, List.map_append]
    rfl

/-- Texts that begin with gaps are put behind each other. -/
theorem wordsOf_join {ts : List String} (h : ∀ t ∈ ts, BeginsWithGap t.toList) :
    wordsOf (String.join ts) = ts.flatMap wordsOf ∧ BeginsWithGap (String.join ts).toList := by
  induction ts with
  | nil => exact ⟨rfl, nofun⟩
  | cons t ts ih =>
    rw [List.forall_mem_cons] at h
    obtain ⟨words, begins⟩ := ih h.2
    rw [String.join_cons, wordsOf_append (.inr begins), words, List.flatMap_cons, String.toList_append]
    exact ⟨rfl, h.1.append begins⟩

/-- A separator that begins and ends with a gap parts the words of what it joins. -/
theorem mem_wordsOf_intercalate {sep w : String} (first : sep.toList.head?.any isGap = true)
    (last : sep.toList.getLast?.any isGap = true) {ts : List String}
    (h : w ∈ wordsOf (sep.intercalate ts)) : w ∈ wordsOf sep ∨ ∃ t ∈ ts, w ∈ wordsOf t := by
  induction ts with
  | nil =>
    rw [String.intercalate_nil] at h
    cases h
  | cons t ts ih =>
    cases ts with
    | nil =>
      rw [String.intercalate_singleton] at h
      exact .inr ⟨t, List.mem_cons_self, h⟩
    | cons u ts =>
      have behind : BeginsWithGap (sep ++ sep.intercalate (u :: ts)).toList := by
        rw [String.toList_append]
        exact beginsWithGap_append first _
      rw [String.intercalate_cons_cons, String.append_assoc, wordsOf_append (.inr behind),
        wordsOf_append (.inl (endsWithGap_of_any last)), List.mem_append, List.mem_append] at h
      rcases h with h | h | h
      · exact .inr ⟨t, List.mem_cons_self, h⟩
      · exact .inl h
      · exact (ih h).imp_right fun ⟨v, hv, hw⟩ => ⟨v, List.mem_cons_of_mem _ hv, hw⟩

/-- Characters without a gap that stand together in a text stand together in a word of it. -/
theorem exists_word_of_run {run : List Char} {text : String} (h : run <:+: text.toList) (ne : run ≠ [])
    (plain : ∀ c ∈ run, isGap c = false) : ∃ w ∈ wordsOf text, run <:+: w.toList := by
  obtain ⟨before, behind, parts⟩ := h
  let inside : Char → Bool := fun c => !isGap c
  -- the word goes on to the next gap on both sides
  let word := before.rtakeWhile inside ++ run ++ behind.takeWhile inside
  have whole : text.toList = before.rdropWhile inside ++ (word ++ behind.dropWhile inside) := by
    rw [← parts]
    nth_rewrite 1 [← @List.rdropWhile_append_rtakeWhile _ inside before]
    nth_rewrite 1 [← @List.takeWhile_append_dropWhile _ inside behind]
    simp only [word, List.append_assoc]
  have opens : EndsWithGap (before.rdropWhile inside) := by
    intro c hc
    obtain ⟨some, rfl⟩ := List.mem_getLast?_eq_getLast hc
    simpa [inside] using List.rdropWhile_last_not inside before some
  have closes : BeginsWithGap (behind.dropWhile inside) := by
    intro c hc
    have first := List.head?_dropWhile_not inside behind
    rw [hc] at first
    simpa [inside] using first
  have solid : ∀ c ∈ word, isGap c = false := by
    intro c hc
    simp only [word, List.mem_append] at hc
    rcases hc with (hc | hc) | hc
    · simpa [inside] using List.mem_rtakeWhile_imp hc
    · exact plain c hc
    · simpa [inside] using List.mem_takeWhile_imp hc
  have mem : word ∈ wordsIn text.toList := by
    rw [whole, wordsIn_append_of_endsWithGap opens, wordsIn_append_of_beginsWithGap _ closes,
      wordsIn_eq_singleton solid (by simp [word, ne])]
    simp
  refine ⟨String.ofList word, List.mem_map_of_mem mem, ?_⟩
  rw [String.toList_ofList]
  exact ⟨_, _, rfl⟩

/-- Every character that is no gap stands in a word. -/
theorem exists_mem_wordsOf {c : Char} {text : String} (hmem : c ∈ text.toList)
    (h : isGap c = false) : ∃ w ∈ wordsOf text, c ∈ w.toList := by
  have run : [c] <:+: text.toList := (List.singleton_infix_iff c _).mpr hmem
  obtain ⟨w, hw, inside⟩ := exists_word_of_run run (List.cons_ne_nil c []) (by simpa using h)
  exact ⟨w, hw, (List.singleton_infix_iff c _).mp inside⟩

end NameQuery.Text
