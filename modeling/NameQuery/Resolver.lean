import NameQuery.Query.Compile
import NameQuery.Table.Found
import NameQuery.Text.Quoted

/-!
# Calls by name

A resolver exposes a table through methods that are called by name. A name that was registered runs
what was registered under it last. Any other finder name is compiled and put to whatever answers
queries (a `Backend`) for the table; a name that is no finder name goes to the fallback, if there is
one. What is decided here is who answers to a name; a failure of the grammar or of the backend is
the answer as it is and never reaches the fallback.
-/

set_option autoImplicit false

namespace NameQuery

/-- A table with methods that are called by name, over a backend that is given with each call. -/
structure Resolver (β : Type) where
  table : String
  /-- The registered methods, the last one first. -/
  methods : List (String × (β → List Value → Except Failure Found)) := []
  /-- Who answers to names that are neither registered nor finder names. -/
  fallback : Option (String → List Value → Except Failure Found) := none

namespace Resolver

variable {β : Type}

/-- A resolver with one more method, which hides an earlier one of the same name. -/
def register (r : Resolver β) (name : String) (method : β → List Value → Except Failure Found) :
    Resolver β :=
  { r with methods := (name, method) :: r.methods }

def fallBackTo (r : Resolver β) (answer : String → List Value → Except Failure Found) : Resolver β :=
  { r with fallback := some answer }

def run [Backend β] (r : Resolver β) (backend : β) (q : Query) : Except Failure Found :=
  Backend.find backend r.table q

def call [Backend β] (r : Resolver β) (backend : β) (name : String) (args : List Value) :
    Except Failure Found :=
  match r.methods.lookup name with
  | some method => method backend args
  | none =>
    match Query.ofName name args with
    | .ok q => r.run backend q
    | .error (.notAFinderName _) =>
      match r.fallback with
      | some answer => answer name args
      | none => .error (.noSuchMethod name)
    | .error why => .error why

/-- The names that were registered, in ascending order, each once. -/
def methodNames (r : Resolver β) : List String :=
  (r.methods.foldl (fun sorted (name, _) => Json.putMember name () sorted) []).map (·.1)

/-- A description of the resolver: its table, its methods, and whether it has a fallback. -/
def describe (r : Resolver β) : String :=
  "Finder \x7b table: " ++ Text.quoted r.table ++ ", methods: " ++ Text.quotedList r.methodNames ++
    ", fallback: " ++ (if r.fallback.isSome then "true" else "false") ++ " \x7d"

end Resolver

end NameQuery
