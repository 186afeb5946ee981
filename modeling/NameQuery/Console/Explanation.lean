import NameQuery.Console.Report
import NameQuery.Console.Transcript
import NameQuery.Sql.Statement

/-!
# Explanations

An explanation follows a finder name through its words and its query to the SQL text over a table.
It ends where the name does not go on, and says there why; no name breaks the program off.
-/

set_option autoImplicit false

namespace NameQuery.Explanation

/-- The words of a name, each on a line, the keywords marked. -/
def wordLines (words : List String) : String :=
  String.join (words.map fun w =>
    "    • " ++ w ++ (if (Keyword.ofWord? w).isSome then " (keyword)" else "") ++ "\n")

def ofQuery (table : String) (q : Query) : Action Unit := do
  Action.say ("Descriptor:\n" ++ Report.query q .table ++ "\nGenerated SQL:\n")
  match q.sql .question table with
  | .ok sql => Action.say s!"  {sql}\n"
  | .error why => Action.note s!"  SQL Error: {why.message}\n"

def ofName (log : Verbosity) (name table : String) : Action Unit := do
  Action.say s!"Finder Explanation\n\nName: {name}\n\n"
  match Name.words? name with
  | none => Action.note s!"Parse Error: {(Failure.notAFinderName name).message}\n"
  | some words =>
    Action.say ("Tokens:\n" ++ wordLines words ++ "\n")
    let compilation := Query.compilation name []
    Action.notes (log.notes compilation.events)
    match compilation.result with
    | .ok q => ofQuery table q
    | .error why => Action.note s!"Grammar Error: {why.message}\n"

end NameQuery.Explanation
