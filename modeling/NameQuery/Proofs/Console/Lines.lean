import NameQuery.Console.Dialogue
import NameQuery.Proofs.Text.Bytes

/-!
# The lines of an input

Lines that are written one after the other, each with its end, are read as these lines, in order and without the
ends (`Dialogue.lines_unlines`), as long as no line has the end of a line or a backspace in it. A line is cut out
of the bytes of the input, becomes a text again, and loses no character when its clusters are typed one after the
other.
-/

set_option autoImplicit false

namespace NameQuery.Dialogue

/-! ## Bytes -/

/-- The bytes of an array are listed from a place on, behind those that are done. -/
theorem toList_loop (bs : ByteArray) (i : Nat) (done : List UInt8) :
    ByteArray.toList.loop bs i done = done.reverse ++ bs.data.toList.drop i := by
  fun_induction ByteArray.toList.loop bs i done with
  | case1 i done inside ih =>
    have bound : i < bs.data.toList.length := by simpa using inside
    rw [ih, List.drop_eq_getElem_cons bound]
    simp [ByteArray.get!, inside]
  | case2 i done outside =>
    rw [List.drop_eq_nil_of_le (by simpa using Nat.le_of_not_lt outside), List.append_nil]

/-- The bytes that are written for a text are its bytes. -/
theorem toList_toUTF8 (s : String) : s.toUTF8.toList = Text.bytes s := toList_loop s.toUTF8 0 []

/-- The bytes of a text are read as this text. -/
theorem fromUTF8?_bytes (s : String) : String.fromUTF8? ⟨(Text.bytes s).toArray⟩ = some s := by
  have whole : (⟨(Text.bytes s).toArray⟩ : ByteArray) = s.toByteArray := by
    rw [Text.bytes, Array.toArray_toList]
  rw [whole, String.fromUTF8?, dif_pos s.isValidUTF8]
  rfl

/-- Only the end of a line is encoded with the byte 10. -/
theorem newline_not_mem_utf8EncodeChar {c : Char} (h : c ≠ '\n') : 10 ∉ String.utf8EncodeChar c := by
  have other : c.val.toNat ≠ 10 := fun same => h (Char.ext (UInt32.toNat_inj.mp same))
  unfold String.utf8EncodeChar
  generalize c.val.toNat = v at other
  dsimp only
  split_ifs <;>
    simp only [List.mem_cons, List.not_mem_nil, or_false, ← UInt8.toNat_inj, UInt8.toNat_ofNat',
      UInt8.reduceToNat] <;>
    omega

/-- A text without the end of a line does not have its byte. -/
theorem newline_not_mem_bytes {s : String} (h : '\n' ∉ s.toList) : 10 ∉ Text.bytes s := by
  rw [Text.bytes_eq_flatMap, List.mem_flatMap]
  rintro ⟨c, mem, ten⟩
  exact newline_not_mem_utf8EncodeChar (fun same => h (same ▸ mem)) ten

/-- Input is cut behind the first line of it. -/
theorem splitLines_line {line : List UInt8} (h : 10 ∉ line) (rest : List UInt8) :
    splitLines (line ++ 10 :: rest) = line :: splitLines rest := by
  induction line with
  | nil => simp [splitLines]
  | cons b line ih =>
    rw [List.mem_cons, not_or] at h
    rw [List.cons_append, splitLines, if_neg (Ne.symm h.1), ih h.2]

/-! ## Clusters -/

theorem clustersAfter_ne_nil (before : Option Text.Ending) (cs : List Char) :
    Text.clustersAfter before cs ≠ [] := by
  induction cs generalizing before with
  | nil => exact List.cons_ne_nil _ _
  | cons c cs ih =>
    rw [Text.clustersAfter]
    split_ifs
    · rw [ne_eq, List.modifyHead_eq_nil_iff]
      exact ih _
    · exact List.cons_ne_nil _ _

/-- No character is lost between clusters. -/
theorem flatten_clustersAfter (before : Option Text.Ending) (cs : List Char) :
    (Text.clustersAfter before cs).flatten = cs := by
  induction cs generalizing before with
  | nil => rfl
  | cons c cs ih =>
    have rest : ((Text.clustersAfter (some (Text.Ending.after before c)) cs).modifyHead (c :: ·)).flatten =
        c :: cs := by
      obtain ⟨first, others, split⟩ := List.exists_cons_of_ne_nil
        (clustersAfter_ne_nil (some (Text.Ending.after before c)) cs)
      have whole := ih (some (Text.Ending.after before c))
      rw [split, List.flatten_cons] at whole
      rw [split, List.modifyHead_cons, List.flatten_cons, List.cons_append, whole]
    rw [Text.clustersAfter]
    split_ifs
    · exact rest
    · rw [List.flatten_cons, List.nil_append, rest]

theorem flatten_clusters (cs : List Char) : (Text.clusters cs).flatten = cs := by
  rw [Text.clusters, List.flatten_filter_ne_nil, flatten_clustersAfter]

/-- Clusters without a backspace are typed as they are. -/
theorem foldl_typed {clusters : List (List Char)} (h : ∀ cluster ∈ clusters, cluster ≠ ['\x08'])
    (line : Typed) : (clusters.foldl typed line).1 = clusters.flatten.reverse ++ line.1 := by
  induction clusters generalizing line with
  | nil => rfl
  | cons cluster clusters ih =>
    obtain ⟨other, h⟩ := List.forall_mem_cons.mp h
    have step : (typed line cluster).1 = cluster.reverse ++ line.1 := by
      unfold typed
      dsimp only
      rw [if_neg other]
    rw [List.foldl_cons, ih h, step, List.flatten_cons, List.reverse_append, List.append_assoc]

/-- A line without a backspace is taken as it was typed. -/
theorem corrected_eq_self {cs : List Char} (h : '\x08' ∉ cs) : corrected cs = cs := by
  have other : ∀ cluster ∈ Text.clusters cs, cluster ≠ ['\x08'] := by
    rintro cluster mem rfl
    refine h ?_
    rw [← flatten_clusters cs]
    exact List.mem_flatten_of_mem mem List.mem_cons_self
  rw [corrected, foldl_typed other, List.append_nil, List.reverse_reverse, flatten_clusters]

/-! ## Lines -/

/-- Lines one after the other, each with its end. -/
def unlines (lines : List String) : String := String.join (lines.map (· ++ "\n"))

/-- Lines with their ends are read as these lines. -/
theorem lines_unlines {lines : List String}
    (h : ∀ line ∈ lines, '\n' ∉ line.toList ∧ '\x08' ∉ line.toList) :
    Dialogue.lines (unlines lines).toUTF8 = lines.map some := by
  rw [Dialogue.lines, toList_toUTF8]
  induction lines with
  | nil => rfl
  | cons line lines ih =>
    obtain ⟨⟨oneLine, noBackspace⟩, h⟩ := List.forall_mem_cons.mp h
    have bytes : Text.bytes (unlines (line :: lines)) = Text.bytes line ++ 10 :: Text.bytes (unlines lines) := by
      have ends : String.utf8EncodeChar '\n' = [10] := by decide
      rw [Text.bytes_eq_flatMap, Text.bytes_eq_flatMap, Text.bytes_eq_flatMap, unlines, List.map_cons,
        String.join_cons, String.toList_append, String.toList_append]
      simp [unlines, ends]
    rw [bytes, splitLines_line (newline_not_mem_bytes oneLine), List.map_cons, ih h, List.map_cons,
      fromUTF8?_bytes, Option.map_some, corrected_eq_self noBackspace, String.ofList_toList]

end NameQuery.Dialogue
