import NameQuery.Text.ClusterClass

/-!
# Clusters of characters

What a reader takes for one character can be several: a letter with its accents, a flag, a family of
pictographs, a syllable. A text is cut into such clusters by the rules of the Unicode standard for
extended grapheme clusters: a control character stands alone; jamo make syllables; marks and joiners
belong to what stands before them, prepended signs to what follows them; linked consonants make a
conjunct; a joiner after a pictograph ties it to the next one; regional indicators go in pairs. All
else is a cluster of its own.

`Ending` keeps what these rules have to know of the characters read so far.
-/

set_option autoImplicit false

namespace NameQuery.Text

/-- How the characters read so far end. -/
structure Ending where
  last : ClusterClass
  /-- An odd number of regional indicators stands at the end. -/
  halfFlag : Bool
  /-- A pictograph stands at the end, with what extends it. -/
  pictograph : Bool
  /-- A joiner stands at the end, and a pictograph with what extends it before the joiner. -/
  joined : Bool
  /-- A consonant stands at the end, with what extends it. -/
  consonant : Bool
  /-- One of the signs after that consonant links it. -/
  linked : Bool

namespace Ending

/-- The ending of a text with one more character, read after the given ending. -/
def after (before : Option Ending) (c : Char) : Ending :=
  let kind := clusterClass c
  let was := fun (f : Ending → Bool) => before.any f
  let extends_ := kind = .joiner || kind = .extend && c ≠ '\u200c'
  { last := kind
    halfFlag := kind = .regional && !was halfFlag
    pictograph := kind = .pictograph || kind = .extend && was pictograph
    joined := kind = .joiner && was pictograph
    consonant := isConjunctConsonant c || extends_ && was consonant
    linked := extends_ && was consonant && (was linked || isConjunctLinker c) }

/-- A character of a class belongs to the cluster that it follows. -/
def isContinuedBy (before : Ending) (c : Char) : Bool :=
  match before.last, clusterClass c with
  | .control, _ | _, .control => false
  | .leadingJamo, .leadingJamo | .leadingJamo, .vowelJamo | .leadingJamo, .openSyllable
  | .leadingJamo, .closedSyllable => true
  | .openSyllable, .vowelJamo | .vowelJamo, .vowelJamo => true
  | .openSyllable, .trailingJamo | .vowelJamo, .trailingJamo => true
  | .closedSyllable, .trailingJamo | .trailingJamo, .trailingJamo => true
  | _, .extend | _, .joiner | _, .spacingMark => true
  | .prepended, _ => true
  | _, .pictograph => before.joined
  | _, .regional => before.halfFlag
  | _, _ => before.linked && isConjunctConsonant c

end Ending

/-- The clusters of a text that is read after the given ending, the first one as far as it belongs to
the text. It is empty where a cluster begins at once. -/
def clustersAfter : Option Ending → List Char → List (List Char)
  | _, [] => [[]]
  | before, c :: cs =>
    let rest := (clustersAfter (some (Ending.after before c)) cs).modifyHead (c :: ·)
    if before.any (Ending.isContinuedBy · c) then rest else [] :: rest

def clusters (cs : List Char) : List (List Char) := (clustersAfter none cs).filter (· ≠ [])

end NameQuery.Text
