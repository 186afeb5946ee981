/-!
# The words of a finder name

A finder name is `find` and one or more words run together, each opening with a capital letter:
`findOneById` has the words `one`, `by` and `id`. What is decided here: which names are finder names
(`isFinderName`: after `find` a capital and at least one small letter, then anything), and where a
word ends (before the next capital and nowhere else). Capitals and small letters are those of ASCII;
all other characters stay inside the word they stand in, and only the capital that opens a word is
written small.

Since a finder name has a capital directly after `find`, no character of it is left over before its
first word (`wordsFrom_of_body?`), and `words?` refuses a name for its opening only.
-/

set_option autoImplicit false

namespace NameQuery.Name

/-- The characters before the first capital of a text, and the words from there on, each with its
capital written small. -/
def wordsFrom : List Char → List Char × List (List Char)
  | [] => ([], [])
  | c :: cs =>
    let (opening, words) := wordsFrom cs
    if c.isUpper then ([], (c.toLower :: opening) :: words) else (c :: opening, words)

/-- What follows `find` in a finder name. -/
def body? : List Char → Option (List Char)
  | 'f' :: 'i' :: 'n' :: 'd' :: c :: d :: cs =>
    if c.isUpper && d.isLower then some (c :: d :: cs) else none
  | _ => none

/-- A name that is meant for the compiler of names. -/
def isFinderName (name : String) : Bool := (body? name.toList).isSome

/-- The words of a finder name, and nothing for any other name. -/
def words? (name : String) : Option (List String) :=
  (body? name.toList).map fun body => (wordsFrom body).2.map String.ofList

end NameQuery.Name
