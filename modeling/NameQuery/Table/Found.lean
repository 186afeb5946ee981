import NameQuery.Table.Record

/-!
# Answers

What a query finds: one record, a list of records, or nothing where one record was asked for.
Whoever answers queries about tables by name is a `Backend`.
-/

set_option autoImplicit false

namespace NameQuery

/-- The answer to a query. -/
inductive Found
  /-- The one record that was asked for. -/
  | one (record : Record)
  /-- A list of records. -/
  | many (records : List Record)
  /-- The one record that was asked for does not exist. -/
  | none

namespace Found

/-- The answer that rows make: their first one if one was asked for, and else all of them. -/
def ofRows (wantsOne : Bool) (rows : List Record) : Found :=
  if wantsOne then
    match rows with
    | [] => .none
    | r :: _ => .one r
  else .many rows

def records : Found → List Record
  | .one r => [r]
  | .many rs => rs
  | .none => []

def isEmpty : Found → Bool
  | .one _ => false
  | .many rs => rs.isEmpty
  | .none => true

end Found

/-- Something that answers queries about its tables. -/
class Backend (β : Type) where
  find : β → String → Query → Except Failure Found

end NameQuery
