/-!
# Blank characters

The blank characters are those with the property White_Space of the Unicode standard, twenty-five
in all. A line is trimmed at both ends and cut into words at runs of them. Core's
`Char.isWhitespace` knows fewer characters, and each that it knows is blank here.
-/

set_option autoImplicit false

namespace NameQuery.Text

/-- The characters with the property White_Space. -/
def isBlank (c : Char) : Bool :=
  let n := c.toNat
  (9 ≤ n && n ≤ 13) || n == 0x20 || n == 0x85 || n == 0xa0 || n == 0x1680 ||
    (0x2000 ≤ n && n ≤ 0x200a) || n == 0x2028 || n == 0x2029 || n == 0x202f || n == 0x205f ||
    n == 0x3000

/-- A text without the blank characters at its two ends. -/
def trimmed (cs : List Char) : List Char :=
  ((cs.dropWhile isBlank).reverse.dropWhile isBlank).reverse

/-- The word that a text opens with, empty where the text opens with a blank character, and the
words after it. -/
def openingWord : List Char → List Char × List (List Char)
  | [] => ([], [])
  | c :: cs =>
    let (word, words) := openingWord cs
    if isBlank c then ([], if word.isEmpty then words else word :: words) else (c :: word, words)

/-- The words of a text: its longest runs of characters that are not blank. -/
def words (cs : List Char) : List (List Char) :=
  let (word, words) := openingWord cs
  if word.isEmpty then words else word :: words

end NameQuery.Text
