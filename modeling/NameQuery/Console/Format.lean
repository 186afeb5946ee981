/-!
# Formats

Queries and answers are shown as tables or as JSON data. Settings and arguments name the two by
words.
-/

set_option autoImplicit false

namespace NameQuery

/-- How queries and answers are shown. -/
inductive Format
  | table
  | json
deriving DecidableEq

def Format.ofWord? : String → Option Format
  | "table" => some .table
  | "json" => some .json
  | _ => none

end NameQuery
