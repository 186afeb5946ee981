import NameQuery.Json.Basic
import NameQuery.Number.Shortest

/-!
# JSON data as text

Two forms: `compact`, without any space, and `pretty`, with one member or element a line, indented
by two spaces. In a string a double quote and a backslash stand after a backslash, the control
characters that have a letter are written by it, the other control characters below the space by
their number, and all else as it is. A double is written plainly from 10⁻⁵ up to 10¹⁶ and else with
an exponent (`Json.layout`).
-/

set_option autoImplicit false

namespace NameQuery.Json

/-- Doubles in JSON text: plain from 10⁻⁵ up to 10¹⁶, whole numbers with `.0`, of two equally near
decimals the even one. -/
def layout : Layout := ⟨fun point => -5 < point && point ≤ 16, true, .toEven⟩

/-- How one character stands in a string. -/
def escaped (c : Char) : List Char :=
  if c = '"' then ['\\', '"']
  else if c = '\\' then ['\\', '\\']
  else if c = '\n' then ['\\', 'n']
  else if c = '\r' then ['\\', 'r']
  else if c = '\t' then ['\\', 't']
  else if c.toNat = 8 then ['\\', 'b']
  else if c.toNat = 12 then ['\\', 'f']
  else if c.toNat < 32 then
    ['\\', 'u', '0', '0', Nat.digitChar (c.toNat / 16), Nat.digitChar (c.toNat % 16)]
  else [c]

def stringText (s : String) : String := String.ofList ('"' :: s.toList.flatMap escaped ++ ['"'])

def numberText : Number → String
  | .whole n _ => toString n
  | .float x => layout.write x

mutual

/-- JSON data without any space. -/
def compact : Json → String
  | .null => "null"
  | .bool b => if b then "true" else "false"
  | .number n => numberText n
  | .string s => stringText s
  | .array elements => "[" ++ ",".intercalate (compactElements elements) ++ "]"
  | .object members => "\x7b" ++ ",".intercalate (compactMembers members) ++ "\x7d"

def compactElements : List Json → List String
  | [] => []
  | e :: es => compact e :: compactElements es

def compactMembers : List (String × Json) → List String
  | [] => []
  | (name, value) :: ms => (stringText name ++ ":" ++ compact value) :: compactMembers ms

end

/-- The lines of a list or an object, which stands at `depth`, between its brackets. -/
def block (opening closing : String) (depth : Nat) (lines : List String) : String :=
  if lines.isEmpty then opening ++ closing
  else
    let margin := fun n => String.ofList (List.replicate (2 * n) ' ')
    opening ++ "\n" ++ ",\n".intercalate (lines.map (margin (depth + 1) ++ ·)) ++ "\n" ++
      margin depth ++ closing

mutual

/-- JSON data at a depth of indentation. -/
def prettyAt (depth : Nat) : Json → String
  | .null => "null"
  | .bool b => if b then "true" else "false"
  | .number n => numberText n
  | .string s => stringText s
  | .array elements => block "[" "]" depth (prettyElements (depth + 1) elements)
  | .object members => block "\x7b" "\x7d" depth (prettyMembers (depth + 1) members)

def prettyElements (depth : Nat) : List Json → List String
  | [] => []
  | e :: es => prettyAt depth e :: prettyElements depth es

def prettyMembers (depth : Nat) : List (String × Json) → List String
  | [] => []
  | (name, value) :: ms =>
    (stringText name ++ ": " ++ prettyAt depth value) :: prettyMembers depth ms

end

/-- JSON data with one member or element a line, indented by two spaces. -/
def pretty (j : Json) : String := prettyAt 0 j

end NameQuery.Json
