import Mathlib
import NameQuery.Text.Pieces

/-!
# Cutting and joining

Cutting a text at a separator undoes joining pieces with it, and the other way round. Joining what
was cut gives the text back always (`intercalate_piecesAt`). Cutting what was joined gives the
pieces back if a piece cannot hold a part of the separator: for a separator of one character, if no
piece holds it (`pieces_intercalate`); for a longer one, if it has one character that stands in it
once and in no piece (`piecesAt_intercalate`).

Cutting at one character is the library's `splitOn`, so that its lemmas serve here.
-/

set_option autoImplicit false

namespace NameQuery.Text

/-! ## Cutting at a character -/

/-- Cutting at a character is the splitting of the library. -/
theorem pieces_eq_splitOn (sep : Char) (cs : List Char) : pieces sep cs = cs.splitOn sep := by
  induction cs with
  | nil => rfl
  | cons c cs ih =>
    rw [pieces, List.splitOn_cons_eq_if_modifyHead, ih]
    simp only [beq_iff_eq]

theorem pieces_ne_nil (sep : Char) (cs : List Char) : pieces sep cs ≠ [] := by
  rw [pieces_eq_splitOn]
  exact List.splitOn_ne_nil sep cs

/-- Pieces without the separator come back from what they were joined to. -/
theorem pieces_intercalate {sep : Char} {ps : List (List Char)} (h : ∀ p ∈ ps, sep ∉ p)
    (ne : ps ≠ []) : pieces sep ([sep].intercalate ps) = ps := by
  rw [pieces_eq_splitOn, List.splitOn_intercalate sep h ne]

/-- A text that was joined is cut where its pieces are cut. -/
theorem pieces_intercalate_eq_flatMap (sep : Char) {ps : List (List Char)} (ne : ps ≠ []) :
    pieces sep ([sep].intercalate ps) = ps.flatMap (pieces sep) := by
  induction ps with
  | nil => exact absurd rfl ne
  | cons p ps ih =>
    cases ps with
    | nil => simp
    | cons q ps =>
      rw [List.intercalate_cons_cons, List.append_assoc, List.singleton_append, pieces_eq_splitOn,
        List.splitOn_append_cons_self, ← pieces_eq_splitOn, ← pieces_eq_splitOn, ih (by simp),
        ← List.flatMap_cons]

theorem pieces_eq_singleton {sep : Char} {cs : List Char} (h : sep ∉ cs) : pieces sep cs = [cs] := by
  have joined := pieces_intercalate (show ∀ p ∈ [cs], sep ∉ p by simpa using h) (by simp)
  rwa [List.intercalate_singleton] at joined

/-! ## Cutting once -/

/-- A text is cut at the first separator. -/
theorem cutOnce_append {sep : Char} {before : List Char} (h : sep ∉ before) (behind : List Char) :
    cutOnce sep (before ++ sep :: behind) = some (before, behind) := by
  induction before with
  | nil => rw [List.nil_append, cutOnce, if_pos rfl]
  | cons c before ih =>
    rw [List.mem_cons, not_or] at h
    rw [List.cons_append, cutOnce, if_neg (Ne.symm h.1), ih h.2, Option.map_some]

theorem cutOnce_eq_none {sep : Char} {cs : List Char} (h : sep ∉ cs) : cutOnce sep cs = none := by
  induction cs with
  | nil => rfl
  | cons c cs ih =>
    rw [List.mem_cons, not_or] at h
    rw [cutOnce, if_neg (Ne.symm h.1), ih h.2, Option.map_none]

/-- The separator between the two parts gives the text back. -/
theorem eq_append_of_cutOnce {sep : Char} {cs before behind : List Char}
    (h : cutOnce sep cs = some (before, behind)) : cs = before ++ sep :: behind := by
  induction cs generalizing before with
  | nil => cases h
  | cons c cs ih =>
    rw [cutOnce] at h
    split at h
    case isTrue same =>
      cases h
      rw [same, List.nil_append]
    case isFalse =>
      obtain ⟨⟨u, v⟩, cut, heq⟩ := Option.map_eq_some_iff.mp h
      cases heq
      rw [List.cons_append, ← ih cut]

/-! ## Cutting at a longer separator -/

theorem piecesAfter_ne_nil (sep : List Char) (skip : Nat) (cs : List Char) :
    piecesAfter sep skip cs ≠ [] := by
  fun_induction piecesAfter sep skip cs with
  | case1 => simp
  | case2 _ _ _ ih => exact ih
  | case3 => simp
  | case4 _ _ _ ih =>
    intro h
    rw [List.modifyHead_eq_nil_iff] at h
    exact ih h

/-- The rest of an occurrence is passed over. -/
theorem piecesAfter_append (sep : List Char) (passed cs : List Char) :
    piecesAfter sep passed.length (passed ++ cs) = piecesAfter sep 0 cs := by
  induction passed with
  | nil => rfl
  | cons c passed ih => exact ih

/-- Joining the pieces of a text gives the text. -/
theorem intercalate_piecesAt {sep : List Char} (ne : sep ≠ []) (cs : List Char) :
    sep.intercalate (piecesAt sep cs) = cs := by
  suffices h : ∀ n, ∀ cs : List Char, cs.length ≤ n → sep.intercalate (piecesAfter sep 0 cs) = cs from
    h cs.length cs (Nat.le_refl _)
  -- on the length, since after an occurrence the text goes on behind it
  intro n
  induction n with
  | zero =>
    intro cs hn
    rw [List.length_eq_zero_iff.mp (Nat.le_zero.mp hn)]
    rfl
  | succ n ih =>
    intro cs hn
    cases cs with
    | nil => rfl
    | cons c cs =>
      rw [piecesAfter]
      split
      case isTrue h =>
        obtain ⟨rest, hrest⟩ := List.isPrefixOf_iff_prefix.mp h
        obtain ⟨s, passed, rfl⟩ := List.exists_cons_of_ne_nil ne
        rw [List.cons_append] at hrest
        obtain ⟨rfl, rfl⟩ := List.cons.inj hrest
        have shorter : rest.length ≤ n := by simp at hn; omega
        rw [List.length_cons, Nat.add_sub_cancel, piecesAfter_append,
          List.intercalate_cons_of_ne_nil (piecesAfter_ne_nil _ _ _), ih rest shorter]
        simp
      case isFalse h =>
        have shorter : cs.length ≤ n := by simpa using hn
        have joined := ih cs shorter
        cases hp : piecesAfter sep 0 cs with
        | nil => exact absurd hp (piecesAfter_ne_nil _ _ _)
        | cons p ps =>
          rw [hp] at joined
          rw [List.modifyHead_cons, List.intercalate_cons_cons_left, joined]

/-- A character that is not in the separator stands in a text as often as in its pieces. -/
theorem count_intercalate {sep : List Char} {c : Char} (h : c ∉ sep) (ps : List (List Char)) :
    (sep.intercalate ps).count c = (ps.map (List.count c)).sum := by
  induction ps with
  | nil => rfl
  | cons p ps ih =>
    cases ps with
    | nil => simp
    | cons q ps =>
      rw [List.intercalate_cons_cons, List.count_append, List.count_append, ih,
        List.count_eq_zero_of_not_mem h]
      simp

/-! ## Pieces without a character of the separator -/

section

variable {u v : List Char} {x : Char}

/-- The separator does not begin before the end of a piece that lacks a character of it. -/
theorem not_isPrefixOf_append (hu : x ∉ u) {p : List Char} (hp : x ∉ p) (ne : p ≠ [])
    (rest : List Char) :
    (u ++ x :: v).isPrefixOf (p ++ (u ++ x :: v ++ rest)) = false := by
  rw [Bool.eq_false_iff]
  intro h
  obtain ⟨more, heq⟩ := List.isPrefixOf_iff_prefix.mp h
  have before : x ∉ p ++ u := by simp [hp, hu]
  -- the character stands at the end of `u` on the left, but only after `p ++ u` on the right
  have left : (u ++ x :: v ++ more)[u.length]? = some x := by simp
  have inside : u.length < (p ++ u).length := by
    have := List.length_pos_iff.mpr ne
    rw [List.length_append]
    omega
  rw [heq, List.append_assoc u, ← List.append_assoc p, List.getElem?_append_left inside] at left
  exact before (List.mem_of_getElem? left)

/-- A piece without the character ends where the separator stands. -/
theorem piecesAfter_piece (hu : x ∉ u) {p : List Char} (hp : x ∉ p) (rest : List Char) :
    piecesAfter (u ++ x :: v) 0 (p ++ (u ++ x :: v ++ rest)) =
      p :: piecesAfter (u ++ x :: v) 0 rest := by
  induction p with
  | nil =>
    obtain ⟨s, passed, heq⟩ := List.exists_cons_of_ne_nil (show u ++ x :: v ≠ [] by simp)
    have starts : (s :: passed).isPrefixOf (s :: (passed ++ rest)) = true :=
      List.isPrefixOf_iff_prefix.mpr ⟨rest, rfl⟩
    rw [heq, List.nil_append, List.cons_append, piecesAfter, if_pos starts, List.length_cons,
      Nat.add_sub_cancel, piecesAfter_append]
  | cons c p ih =>
    have later : (u ++ x :: v).isPrefixOf (c :: p ++ (u ++ x :: v ++ rest)) = false :=
      not_isPrefixOf_append hu hp (List.cons_ne_nil c p) rest
    rw [List.cons_append] at later ⊢
    rw [piecesAfter, later, if_neg Bool.false_ne_true, ih fun h => hp (List.mem_cons_of_mem _ h),
      List.modifyHead_cons]

/-- A text without the character is one piece. -/
theorem piecesAfter_last {p : List Char} (hp : x ∉ p) : piecesAfter (u ++ x :: v) 0 p = [p] := by
  induction p with
  | nil => rfl
  | cons c p ih =>
    have absent : ¬ (u ++ x :: v).isPrefixOf (c :: p) = true := by
      intro h
      exact hp ((List.isPrefixOf_iff_prefix.mp h).subset (by simp))
    rw [piecesAfter, if_neg absent, ih fun h => hp (List.mem_cons_of_mem _ h), List.modifyHead_cons]

/-- Cutting what was joined gives the pieces back. -/
theorem piecesAt_intercalate (hu : x ∉ u) {ps : List (List Char)} (h : ∀ p ∈ ps, x ∉ p)
    (ne : ps ≠ []) : piecesAt (u ++ x :: v) ((u ++ x :: v).intercalate ps) = ps := by
  unfold piecesAt
  induction ps with
  | nil => exact absurd rfl ne
  | cons p ps ih =>
    have hp : x ∉ p := h p List.mem_cons_self
    cases ps with
    | nil => rw [List.intercalate_singleton, piecesAfter_last hp]
    | cons q ps =>
      have rest := ih (fun r hr => h r (List.mem_cons_of_mem _ hr)) (by simp)
      rw [List.intercalate_cons_cons, List.append_assoc, piecesAfter_piece hu hp, rest]

end

end NameQuery.Text
