import NameQuery.Query.Compile
import NameQuery.Text.Quoted

/-!
# Log lines

What a log shows of an event: the time at which it is written, its level, the part of the program it
comes from, a message, and named fields. A field is a text as it is, a quoted text, or a list of quoted
texts. A log that is not verbose shows warnings; a verbose one shows debugging as well, and neither
shows the entry of each grammar rule.

The time is the one thing in a line that the event does not tell. It comes from a clock outside of
everything here, and a line takes its text as it is given.
-/

set_option autoImplicit false

namespace NameQuery

/-- How important an event is. -/
inductive Level
  | trace
  | debug
  | warn
deriving DecidableEq

namespace Level

/-- A level as a number that grows with importance. -/
def rank : Level → Nat
  | .trace => 0
  | .debug => 1
  | .warn => 2

/-- A level at the start of a log line, five characters wide. -/
def label : Level → String
  | .trace => "TRACE"
  | .debug => "DEBUG"
  | .warn => " WARN"

end Level

/-- The value of a field of an event. -/
inductive EventField
  /-- A text shown as it is. -/
  | bare (text : String)
  /-- A text that a log line quotes. -/
  | quoted (text : String)
  /-- A list of texts, each quoted. -/
  | list (texts : List String)

namespace EventField

/-- A field in a log line. -/
def inLine : EventField → String
  | .bare text => text
  | .quoted text => Text.quoted text
  | .list texts => Text.quotedList texts

/-- A field on its own. -/
def alone : EventField → String
  | .quoted text => text
  | field => field.inLine

end EventField

namespace Event

def level : Event → Level
  | .step (.rule _ _) => .trace
  | .step _ => .warn
  | .compiled _ _ _ | .executing _ _ => .debug

def origin : Event → String
  | .step _ => "finder::grammar"
  | .compiled _ _ _ => "finder::compiler"
  | .executing _ _ => "finder::engine"

def message : Event → String
  | .step (.rule _ _) => "finder rule"
  | .step (.ignoredAfterField _ _) => "tokens after 'and' field are ignored"
  | .step (.ignoredAfterOrder _) => "tokens after 'ordered by' clause are ignored"
  | .compiled _ _ _ => "compiled finder"
  | .executing _ _ => "executing finder query"

/-- The fields of an event, in the order in which a log line shows them. -/
def fields : Event → List (String × EventField)
  | .step (.rule k remaining) => [("keyword", .bare k.word), ("remaining", .list remaining)]
  | .step (.ignoredAfterField field ignored) => [("field", .bare field), ("ignored", .list ignored)]
  | .step (.ignoredAfterOrder ignored) => [("ignored", .list ignored)]
  | .compiled name words q => [
      ("method", .quoted name), ("tokens", .list words), ("select", .bare q.select),
      ("filter", .bare q.filter), ("order", .bare q.order),
      ("limit", .bare (toString q.limit.toNat))]
  | .executing sql values => [("sql", .bare sql), ("values", .bare (toString values))]

/-- The log line of an event that is written at a time, with its end. -/
def line (time : String) (e : Event) : String :=
  time ++ " " ++ e.level.label ++ " " ++ e.origin ++ ": " ++ e.message ++
    String.join (e.fields.map fun (name, field) => " " ++ name ++ "=" ++ field.inLine) ++ "\n"

end Event

/-- Which events a log shows. -/
inductive Verbosity
  | silent
  | warnings
  | debugging
deriving DecidableEq

namespace Verbosity

/-- A log at this verbosity shows the event. -/
def shows : Verbosity → Event → Bool
  | .silent, _ => false
  | .warnings, e => Level.warn.rank ≤ e.level.rank
  | .debugging, e => Level.debug.rank ≤ e.level.rank

end Verbosity

end NameQuery
