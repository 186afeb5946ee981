/-!
# Pieces of a text

A text is cut at a separator and put together again. What is decided here: where a text is cut (at
every occurrence, left to right, none overlapping another), that a text without the separator is
one piece, and that the empty text is one empty piece. `pieces` cuts at a character, `piecesAt` at
a longer separator, `cutOnce` at the first occurrence only.

All functions recurse on the characters, so that each of them can be followed one character at a
time.
-/

set_option autoImplicit false

namespace NameQuery.Text

/-- The pieces of a text between the occurrences of one character. -/
def pieces (sep : Char) : List Char → List (List Char)
  | [] => [[]]
  | c :: cs => if c = sep then [] :: pieces sep cs else (pieces sep cs).modifyHead (c :: ·)

/-- The pieces between the occurrences of `sep`, with `skip` characters of an occurrence still to
be passed over. -/
def piecesAfter (sep : List Char) : Nat → List Char → List (List Char)
  | _, [] => [[]]
  | skip + 1, _ :: cs => piecesAfter sep skip cs
  | 0, c :: cs =>
    if sep.isPrefixOf (c :: cs) then [] :: piecesAfter sep (sep.length - 1) cs
    else (piecesAfter sep 0 cs).modifyHead (c :: ·)

/-- The pieces of a text between the occurrences of a separator of one or more characters. -/
def piecesAt (sep : List Char) (cs : List Char) : List (List Char) := piecesAfter sep 0 cs

/-- A text cut at the first occurrence of a character: what stands before it and what stands after
it, or nothing where the character does not occur. -/
def cutOnce (sep : Char) : List Char → Option (List Char × List Char)
  | [] => none
  | c :: cs =>
    if c = sep then some ([], cs) else (cutOnce sep cs).map fun (before, after) => (c :: before, after)

/-- A text with every occurrence of one character written as `new`. -/
def replaced (old : Char) (new : List Char) (cs : List Char) : List Char :=
  cs.flatMap fun c => if c = old then new else [c]

/-- A text that begins with `start`, without that beginning. -/
def withoutStart? : List Char → List Char → Option (List Char)
  | [], cs => some cs
  | _ :: _, [] => none
  | s :: start, c :: cs => if s = c then withoutStart? start cs else none

end NameQuery.Text
