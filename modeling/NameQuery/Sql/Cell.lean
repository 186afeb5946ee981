import NameQuery.Failure
import NameQuery.Sql.Numeral
import NameQuery.Value

/-!
# Cells and column types of SQLite

A cell of an SQLite table holds null, a whole number, a double or a text, whatever the type of its
column; a text beyond the doubles can also have made it infinite. The type that a column declares
decides three things: in which form a value is stored (`Affinity.store`), how a bound value is brought
into line before it is compared (`Affinity.equal`), and as what a stored value is read back
(`ColumnType.read`). The declared type counts by the words that it contains, in capitals or not.

Numbers compare exactly, whole numbers with doubles too. What is read back from a column with a
whole-number type are the low 32 bits of a stored whole number, as the driver of the database hands
them over; values of a form that the type does not have are read as null.
-/

set_option autoImplicit false

namespace NameQuery.Sql

/-- A stored or bound value. -/
inductive Cell
  | null
  | integer (n : Int)
  | real (x : Binary64)
  | infinite (negative : Bool)
  | text (s : String)
deriving DecidableEq

namespace Cell

/-- A bind value as it is handed to the database: a boolean is one or zero. -/
def ofValue : Value → Cell
  | .null => .null
  | .bool b => .integer (if b then 1 else 0)
  | .int n => .integer n.toInt
  | .float x => .real x
  | .string s => .text s

/-! ## Order -/

/-- A number as what it is compared by: how it lies to the finite numbers, and if it is one of them,
how often it holds 2⁻¹⁰⁷⁴. -/
def number? : Cell → Option (Int × Int)
  | .integer n => some (0, n * Nat.pow 2 1074)
  | .real x => some (0, x.units)
  | .infinite negative => some (if negative then -1 else 1, 0)
  | _ => none

/-- The place of a cell's kind in the order: null, numbers, texts. -/
def kindRank : Cell → Nat
  | .null => 0
  | .integer _ | .real _ | .infinite _ => 1
  | .text _ => 2

def order (a b : Cell) : Ordering :=
  match a.number?, b.number?, a, b with
  | some m, some n, _, _ => (compare m.1 n.1).then (compare m.2 n.2)
  | _, _, .text s, .text t => compare s t
  | _, _, _, _ => compare a.kindRank b.kindRank

/-! ## Numbers and texts -/

def ofNumeral (n : Numeral) : Cell :=
  match n.double? with
  | some x => .real x
  | none => .infinite n.negative

/-- The number that a text reads as, blanks around it apart: a whole number of 64 bits, or a double. -/
def numberOf? (s : String) : Option Cell :=
  match wholeOf? s.toList with
  | some n => some (.integer n.toInt)
  | none =>
    let n := Numeral.scan s.toList
    if n.complete then some (ofNumeral n) else none

/-- A whole double strictly within 64 bits signed as a whole number. -/
def asWhole (x : Binary64) : Cell :=
  match x.toInt? with
  | some n =>
    if -9_223_372_036_854_775_808 < n ∧ n < 9_223_372_036_854_775_807 then .integer n else .real x
  | none => .real x

/-- A double as a column of doubles stores it: the two zeros are one. -/
def asDouble (x : Binary64) : Cell := .real (if x.mantissa = 0 then Binary64.zero false else x)

/-- A number as text; other cells stay as they are. -/
def numberAsText : Cell → Cell
  | .integer n => .text (toString n)
  | .real x => .text (realText x)
  | .infinite negative => .text (if negative then "-Inf" else "Inf")
  | c => c

/-- A text that reads as a number as that number; other cells stay as they are. -/
def textAsNumber : Cell → Cell
  | .text s => (numberOf? s).getD (.text s)
  | c => c

/-- A cell as a condition: numbers other than zero hold, a text as the number that it begins with,
and null is neither true nor false. -/
def holds? : Cell → Option Bool
  | .null => none
  | .integer n => some (n != 0)
  | .real x => some (x.mantissa != 0)
  | .infinite _ => some true
  | .text s => some ((Numeral.scan s.toList).double?.all (·.mantissa != 0))

end Cell

/-! ## Declared types -/

/-- A text stands somewhere in another one. -/
def occursIn (part : List Char) : List Char → Bool
  | [] => part.isEmpty
  | c :: cs => part.isPrefixOf (c :: cs) || occursIn part cs

def contains (type word : String) : Bool := occursIn word.toList type.toList

/-- The form that a column prefers. -/
inductive Affinity
  | integer
  | text
  /-- Every value as it comes. -/
  | untyped
  | real
  | numeric
deriving DecidableEq

namespace Affinity

def ofDeclared (declared : String) : Affinity :=
  let type := declared.map Char.toLower
  if contains type "int" then .integer
  else if contains type "char" || contains type "clob" || contains type "text" then .text
  else if type.isEmpty || contains type "blob" then .untyped
  else if contains type "real" || contains type "floa" || contains type "doub" then .real
  else .numeric

def isNumeric : Affinity → Bool
  | .integer | .real | .numeric => true
  | _ => false

/-- A value as it is stored in a column. -/
def store (a : Affinity) (c : Cell) : Cell :=
  match a with
  | .text => c.numberAsText
  | .untyped => c
  | .integer | .numeric => match c.textAsNumber with
    | .real x => Cell.asWhole x
    | other => other
  | .real => match c.textAsNumber with
    | .integer n => .real (Binary64.ofInt n)
    | .real x => Cell.asDouble x
    | other => other

/-- A cell as it is compared where two cells are compared: as a number for an affinity of numbers, and
as a text for one of texts if one of the two cells is a text. -/
def aligned (affinity : Affinity) (a b c : Cell) : Cell :=
  if affinity.isNumeric then c.textAsNumber
  else if affinity = .text && (a.kindRank = 2 || b.kindRank = 2) then c.numberAsText
  else c

/-- A stored value compared with a bound one. With null there is no answer. -/
def equal (a : Affinity) (stored bound : Cell) : Option Bool :=
  match a.aligned stored bound stored, a.aligned stored bound bound with
  | .null, _ => none
  | _, .null => none
  | s, b => some (s.order b = .eq)

end Affinity

/-- As what the values of a column are read back. -/
inductive ColumnType
  | whole
  | double
  | text
  | nothing
  /-- A type that the driver of the database refuses, by the name that it gives it. -/
  | refused (name : String)
deriving DecidableEq

namespace ColumnType

/-- The type of a column as the driver of the database understands its declaration. -/
def ofDeclared (declared : String) : ColumnType :=
  let type := declared.map Char.toLower
  if type = "boolean" || type = "bool" then .refused "Bool"
  else if type = "date" then .refused "Date"
  else if type = "time" then .refused "Time"
  else if type = "datetime" || type = "timestamp" then .refused "Datetime"
  else if contains type "int" then .whole
  else if contains type "char" || contains type "clob" || contains type "text" then .text
  else if contains type "blob" then .text
  else if contains type "real" || contains type "floa" || contains type "doub" then .double
  else .nothing

/-- A stored value of the named column as it is read back. -/
def read (column : String) : ColumnType → Cell → Except Failure Json
  | .whole, .integer n => .ok (.number (.ofInt64 (Int64.ofInt (n.bmod UInt32.size))))
  | .double, .real x => .ok (.number (.float x))
  | .text, .text s => .ok (.string s)
  | .refused name, _ => .error (.execution (s!"error occurred while decoding column {column}: error " ++
      s!"in Any driver mapping: Any driver does not support the SQLite type SqliteTypeInfo({name})"))
  | _, _ => .ok .null

end ColumnType

end NameQuery.Sql
