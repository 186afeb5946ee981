/-!
# What can go wrong

The causes for which a name is not compiled or a query is not answered, and the message of each. A
name that is not a finder name is no fault of the name: it is how a caller learns that the name
belongs to somebody else. Only the two causes that the grammar of names itself raises are
grammatical (`Failure.isGrammatical`).
-/

set_option autoImplicit false

namespace NameQuery

/-- A cause of failure. -/
inductive Failure
  /-- The name does not begin like a finder name. -/
  | notAFinderName (name : String)
  /-- A word that is no keyword stands where only a keyword may follow. -/
  | unknownContinuation (word : String)
  /-- The words `ordered by` are not complete, or no field follows them. -/
  | malformedOrder
  /-- Nobody answers to the name. -/
  | noSuchMethod (name : String)
  /-- There are more or fewer values than placeholders. -/
  | bindMismatch (expected got : Nat)
  /-- The store refuses what it is given. -/
  | database (reason : String)
  /-- The database cannot be reached. -/
  | connection (reason : String)
  /-- The query cannot be carried out. -/
  | execution (reason : String)
  /-- The settings are unusable. -/
  | config (reason : String)
  /-- A file cannot be read. -/
  | io (reason : String)
deriving DecidableEq

namespace Failure

def message : Failure → String
  | .notAFinderName name => s!"Not a finder method: '{name}'"
  | .unknownContinuation word => s!"Unknown find method including {word}."
  | .malformedOrder => "Malformed ordered clause: expected 'OrderedBy<Field>'"
  | .noSuchMethod name => s!"Call to undefined method '{name}'"
  | .bindMismatch expected got => s!"Bind mismatch: query expects {expected} value(s), got {got}"
  | .database reason => s!"Database error: {reason}"
  | .connection reason => s!"Connection error: {reason}"
  | .execution reason => s!"Execution error: {reason}"
  | .config reason => s!"Configuration error: {reason}"
  | .io reason => s!"IO error: {reason}"

/-- A failure that the grammar of names raises. -/
def isGrammatical : Failure → Bool
  | .unknownContinuation _ | .malformedOrder => true
  | _ => false

def invalidField (clause field : String) : Failure := .execution s!"invalid {clause} field '{field}'"

def noSuchTable (table : String) : Failure := .execution s!"no such table: {table}"

end Failure

end NameQuery
