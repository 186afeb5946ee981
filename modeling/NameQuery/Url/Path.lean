import NameQuery.Text.Pieces

/-!
# Paths of URLs

A path that begins with a slash is a list of segments, and it is kept in normal form: a segment of
one dot is left out, a segment of two dots leaves out the segment before it, and where such a segment
is the last one the path ends in a slash. A dot may be written `%2e` (`dots`). The letter of a drive
is never left out.
-/

set_option autoImplicit false

namespace NameQuery.Url.Path

/-- A segment with its dots written out. -/
def dots : List Char → List Char
  | '%' :: '2' :: 'e' :: cs | '%' :: '2' :: 'E' :: cs => '.' :: dots cs
  | c :: cs => c :: dots cs
  | [] => []

/-- A segment that begins with the letter of a drive, which a colon or a bar follows. -/
def isDrive : List Char → Bool
  | [letter, mark] => letter.isAlpha && (mark = ':' || mark = '|')
  | letter :: mark :: next :: _ => letter.isAlpha && (mark = ':' || mark = '|') && next = '\\'
  | _ => false

/-- The segments without the last one, unless that is a drive. The last one comes first. -/
def parent : List (List Char) → List (List Char)
  | [] => []
  | s :: before => if isDrive s then s :: before else before

/-- The segments in normal form after those before, the last one first. -/
def normal (before : List (List Char)) : List (List Char) → List (List Char)
  | [] => before
  | s :: rest =>
    let ended := fun kept : List (List Char) => if rest.isEmpty then [] :: kept else kept
    if dots s = ['.', '.'] then normal (ended (parent before)) rest
    else if dots s = ['.'] then normal (ended before) rest
    else normal (s :: before) rest

/-- A path in normal form. The first slash, where it is missing, is added. -/
def normalized (cs : List Char) : List Char :=
  let segments := Text.pieces '/' (if cs.head? = some '/' then cs.drop 1 else cs)
  (normal [] segments).reverse.flatMap ('/' :: ·)

end NameQuery.Url.Path
