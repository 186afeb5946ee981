import NameQuery.Text.Shown

/-!
# Quoted texts

A text between double quotes, as log lines and descriptions show it: a double quote and a backslash
are written after a backslash, tab, line feed, carriage return and the null character by a letter or
digit of their own, and every other character that is not shown (`isShown`) by its number in
hexadecimal. A list of texts is its quoted members between brackets.
-/

set_option autoImplicit false

namespace NameQuery.Text

/-- How one character stands in a quoted text. -/
def quotedChar (c : Char) : List Char :=
  if c = '"' then ['\\', '"']
  else if c = '\\' then ['\\', '\\']
  else if c = '\n' then ['\\', 'n']
  else if c = '\t' then ['\\', 't']
  else if c = '\r' then ['\\', 'r']
  else if c.toNat = 0 then ['\\', '0']
  else if isShown c then [c]
  else ['\\', 'u', '\x7b'] ++ Nat.toDigits 16 c.toNat ++ ['\x7d']

/-- A text between double quotes. -/
def quoted (s : String) : String :=
  String.ofList ('"' :: s.toList.flatMap quotedChar ++ ['"'])

/-- A list of texts, each quoted, between brackets. -/
def quotedList (ss : List String) : String :=
  "[" ++ ", ".intercalate (ss.map quoted) ++ "]"

end NameQuery.Text
