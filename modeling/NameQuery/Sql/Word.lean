import NameQuery.Text.Pieces

/-!
# Words of SQL

The words that have a meaning in SQL, in capitals. What is decided here is which of them cannot name
a column or a table: the reserved ones never do, the words that join tables do where no join can
begin, and all the others do wherever their meaning does not fit.
-/

set_option autoImplicit false

namespace NameQuery.Sql

def capitals (cs : List Char) : String := String.ofList (cs.map Char.toUpper)

def sameName (a b : String) : Bool := a.map Char.toLower == b.map Char.toLower

/-- The words that name nothing. -/
def reservedWords : List String :=
  ["ADD", "ALL", "ALTER", "AND", "AS", "AUTOINCREMENT", "BETWEEN", "CASE", "CHECK", "COLLATE", "COMMIT",
    "CONSTRAINT", "CREATE", "DEFAULT", "DEFERRABLE", "DELETE", "DISTINCT", "DROP", "ELSE", "ESCAPE",
    "EXCEPT", "EXISTS", "FOREIGN", "FROM", "GROUP", "HAVING", "IN", "INDEX", "INSERT", "INTERSECT",
    "INTO", "IS", "ISNULL", "JOIN", "LIMIT", "NOT", "NOTHING", "NOTNULL", "NULL", "ON", "OR", "ORDER",
    "PRIMARY", "REFERENCES", "RETURNING", "SELECT", "SET", "TABLE", "THEN", "TO", "TRANSACTION",
    "UNION", "UNIQUE", "UPDATE", "USING", "VALUES", "WHEN", "WHERE"]

/-- The words that say how tables are joined. -/
def joinWords : List String := ["CROSS", "FULL", "INNER", "LEFT", "NATURAL", "OUTER", "RIGHT"]

/-- The words that have a meaning where an expression begins, though they can be names elsewhere. -/
def leadingWords : List String := ["CAST", "RAISE", "CURRENT_DATE", "CURRENT_TIME", "CURRENT_TIMESTAMP"]

/-- The words for true and false, which can also be names. -/
def truthWords : List String := ["TRUE", "FALSE"]

/-- The names of the number of a row, unless a column of the table has that name. -/
def rowNumberNames : List String := ["ROWID", "OID", "_ROWID_"]

/-- A word that is not reserved. -/
def isFreeWord (cs : List Char) : Bool := !reservedWords.contains (capitals cs)

/-- A word that means a column wherever an expression stands: letters, digits and underscores without
a digit in front, and no word with a meaning there. -/
def isPlainWord (s : String) : Bool :=
  let cs := s.toList
  match cs with
  | [] => false
  | c :: _ =>
    !c.isDigit && cs.all (fun c => c.isAlphanum || c = '_') && isFreeWord cs &&
      !leadingWords.contains (capitals cs) && !rowNumberNames.contains (capitals cs) &&
      !truthWords.contains (capitals cs)

/-- A word that means a table after FROM. -/
def isPlainTable (s : String) : Bool :=
  match s.toList with
  | [] => false
  | c :: cs =>
    !c.isDigit && (c :: cs).all (fun c => c.isAlphanum || c = '_') && isFreeWord (c :: cs)

end NameQuery.Sql
