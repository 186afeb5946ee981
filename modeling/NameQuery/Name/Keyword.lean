/-!
# Keywords

The five words of a finder name that say what the words around them mean. Every other word names a
field.
-/

set_option autoImplicit false

namespace NameQuery

/-- A keyword of the grammar of finder names. -/
inductive Keyword
  | all
  | one
  | by
  | and
  | ordered
deriving DecidableEq

namespace Keyword

/-- The keyword as it stands among the words of a name. -/
def word : Keyword → String
  | .all => "all"
  | .one => "one"
  | .by => "by"
  | .and => "and"
  | .ordered => "ordered"

/-- The keyword that a word is. Capitals make a different word. -/
def ofWord? : String → Option Keyword
  | "all" => some .all
  | "one" => some .one
  | "by" => some .by
  | "and" => some .and
  | "ordered" => some .ordered
  | _ => none

/-- The keywords in the order in which a reference lists them. -/
def list : List Keyword := [.all, .one, .by, .and, .ordered]

/-- A keyword is read from its own word. -/
theorem ofWord?_word (k : Keyword) : ofWord? k.word = some k := by cases k <;> rfl

/-- A word that is read as a keyword is the word of this keyword. -/
theorem word_of_ofWord? {w : String} {k : Keyword} (h : ofWord? w = some k) : k.word = w := by
  unfold ofWord? at h
  split at h <;> cases h <;> rfl

end Keyword

end NameQuery
