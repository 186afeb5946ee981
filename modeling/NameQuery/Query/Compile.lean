import NameQuery.Name.Grammar
import NameQuery.Name.Words
import NameQuery.Query.Basic

/-!
# From a name to a query

`Query.ofName` compiles a finder name: its words are found, the grammar reads them from no clauses
at all, and the clauses and the arguments make a query. The arguments are not counted; whoever
answers the query does that. A compilation is also reported (`compilation`): the steps of the
reading and, where it succeeds, its result are the events that a log shows.
-/

set_option autoImplicit false

namespace NameQuery

/-- What a log can show of a finder call. -/
inductive Event
  /-- A step of reading the words of a name. -/
  | step (s : Name.Step)
  /-- A name has been compiled. -/
  | compiled (name : String) (words : List String) (query : Query)
  /-- A statement goes out with a number of values. -/
  | executing (sql : String) (values : Nat)

/-- A result and the events on the way to it. -/
structure Traced (α : Type) where
  events : List Event
  result : Except Failure α

namespace Query

def compilation (name : String) (args : List Value) : Traced Query :=
  match Name.words? name with
  | none => ⟨[], .error (.notAFinderName name)⟩
  | some words =>
    let reading := Name.readWords words {}
    let steps := reading.steps.map Event.step
    match reading.failure with
    | some why => ⟨steps, .error why⟩
    | none =>
      let query := ofClauses reading.clauses args
      ⟨steps ++ [.compiled name words query], .ok query⟩

def ofName (name : String) (args : List Value) : Except Failure Query :=
  (compilation name args).result

end Query

end NameQuery
