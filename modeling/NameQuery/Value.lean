import NameQuery.Json.Basic
import NameQuery.Number.Literal
import NameQuery.Number.Shortest

/-!
# Bind values

The values that are bound to the placeholders of a query: null, a boolean, a signed number of 64
bits, a finite double or a text. What is decided here: what a command-line argument means
(`ofArgument`), when a bind value agrees with a stored one (`agrees`), how a bind value is shown
(`display`), and its form in JSON data (`toJson`, `ofJson?`).

Whole numbers and doubles agree when they are the same number after the whole number has been
rounded to a double; two whole numbers of 64 bits signed agree only when they are equal.

Doubles are finite throughout. No argument and no JSON data gives NaN or an infinity: an argument that
no finite double is near to is a text, and such a number is no JSON. A caller that builds a query by
hand cannot bind one either; the type has none.
-/

set_option autoImplicit false

namespace NameQuery

/-- A value bound to a placeholder. -/
inductive Value
  | null
  | bool (b : Bool)
  | int (n : Int64)
  /-- A finite double. NaN and the infinities are no bind values. -/
  | float (x : Binary64)
  | string (s : String)
deriving DecidableEq

namespace Value

/-! ## Reading -/

/-- The meaning of an argument: a whole number of 64 bits, else a decimal whose nearest double is
finite, else one of the three words `true`, `false` and `null`, else the text itself. -/
def ofArgument (text : String) : Value :=
  match (wholeNumber? text.toList).bind int64? with
  | some n => .int n
  | none =>
    match (Decimal.ofText? text.toList).bind Decimal.toBinary64? with
    | some x => .float x
    | none =>
      if text = "true" then .bool true
      else if text = "false" then .bool false
      else if text = "null" then .null
      else .string text

/-- A bind value in JSON data. A number that is no signed whole number of 64 bits is the nearest
double. Lists and objects are no bind values. -/
def ofJson? : Json → Option Value
  | .null => some .null
  | .bool b => some (.bool b)
  | .number n => some (match n.toInt64? with
    | some i => .int i
    | none => .float n.toBinary64)
  | .string s => some (.string s)
  | .array _ => none
  | .object _ => none

def toJson : Value → Json
  | .null => .null
  | .bool b => .bool b
  | .int n => .number (.ofInt64 n)
  | .float x => .number (.float x)
  | .string s => .string s

/-! ## Agreement with stored values -/

/-- A bind value agrees with a stored one. Only values of one kind do, whole numbers and doubles
being one kind. -/
def agrees : Value → Json → Bool
  | .null, .null => true
  | .bool a, .bool b => a == b
  | .int a, .number n => match n.toInt64? with
    | some b => a == b
    | none => n.toBinary64.same (Binary64.ofInt a.toInt)
  | .float a, .number n => n.toBinary64.same a
  | .string a, .string b => a == b
  | _, _ => false

/-! ## Display -/

/-- Doubles in a display: never an exponent, no point after a whole number, of two equally near
decimals the larger. -/
def layout : Layout := ⟨fun _ => true, false, .away⟩

/-- A bind value as it is shown: null in capitals, a text between single quotes as it is. -/
def display : Value → String
  | .null => "NULL"
  | .bool b => if b then "true" else "false"
  | .int n => toString n.toInt
  | .float x => layout.write x
  | .string s => "'" ++ s ++ "'"

end Value

end NameQuery
