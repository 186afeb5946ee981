import NameQuery.Console.Reference
import NameQuery.Console.Transcript
import NameQuery.Sql.Statement
import NameQuery.Text.Blank
import NameQuery.Text.Cluster

/-!
# Dialogues

In a dialogue every line of the input is a finder name with its arguments, or one of a few words
that end the dialogue or show the keyword reference. Blank characters around a line and between its
words do not count, and a line of them alone is passed over. A backspace takes back the cluster of
characters before it. A name that cannot be compiled gets its message, and the dialogue goes on; it ends early
only at a line that is no text.
-/

set_option autoImplicit false

namespace NameQuery.Dialogue

/-! ## Lines -/

/-- The lines of the input without their ends. An end of a line after the last one opens no further
line. -/
def splitLines : List UInt8 → List (List UInt8)
  | [] => []
  | b :: bs =>
    if b = 10 then [] :: splitLines bs
    else
      match splitLines bs with
      | [] => [[b]]
      | line :: lines => (b :: line) :: lines

/-- A text, given from its end, without some bytes at its end. -/
def withoutBytes : Nat → List Char → List Char
  | 0, cs => cs
  | _, [] => []
  | n, c :: cs => if c.utf8Size ≤ n then withoutBytes (n - c.utf8Size) cs else c :: cs

/-- What is left of a line while it is typed: its characters and the sizes of its clusters, both from
the end. -/
abbrev Typed := List Char × List Nat

/-- A line with one more cluster typed. A backspace takes back the last cluster that was not taken
back, by its size in bytes. Only the low eight bits of a size are kept. -/
def typed (line : Typed) (cluster : List Char) : Typed :=
  let (kept, sizes) := line
  if cluster = ['\x08'] then
    match sizes with
    | [] => line
    | n :: sizes => (withoutBytes n kept, sizes)
  else
    (cluster.reverse ++ kept, (String.ofList cluster).utf8ByteSize % 256 :: sizes)

/-- What a line says once it is typed. -/
def corrected (cs : List Char) : List Char :=
  (((Text.clusters cs).foldl typed ([], [])).1).reverse

/-- The lines of the input as texts, and nothing for a line that is not well-formed UTF-8. -/
def lines (input : ByteArray) : List (Option String) :=
  (splitLines input.toList).map fun line =>
    (String.fromUTF8? ⟨line.toArray⟩).map fun text => String.ofList (corrected text.toList)

/-! ## Answers -/

def greeting : String :=
  "finder REPL — Interactive Mode\n" ++
  "Type finder names (optionally followed by arguments) to see descriptors.\n" ++
  "  .exit  - Exit the REPL\n" ++
  "  .help - Show keyword reference\n\n"

def farewell : Action Unit := Action.say "Goodbye!\n"

def complain (why : Failure) : Action Unit := Action.note s!"✗ {why.message}\n"

def answerQuery (q : Query) : Action Unit := do
  Action.say (Report.query q .table)
  match q.sql .question "records" with
  | .ok sql => Action.say s!"→ {sql}\n"
  | .error why => complain why
  Action.say "\n"

def answerName (log : Verbosity) (name : String) (args : List String) : Action Unit := do
  let compilation := Query.compilation name (args.map Value.ofArgument)
  Action.notes (log.notes compilation.events)
  match compilation.result with
  | .ok q => answerQuery q
  | .error why => complain why

/-! ## The course of a dialogue -/

inductive Request
  | nothing
  | leave
  | reference
  | query (name : String) (args : List String)
deriving DecidableEq

/-- What a line asks for. A word that leaves or asks for the reference has to be alone. -/
def Request.ofLine (line : String) : Request :=
  match (Text.words line.toList).map String.ofList with
  | [] => .nothing
  | [".exit"] | [".quit"] | ["exit"] | ["quit"] => .leave
  | [".help"] | ["help"] => .reference
  | name :: args => .query name args

/-- The course of a dialogue along the lines of its input. -/
def course (log : Verbosity) : List (Option String) → Action Unit
  | [] => farewell
  | none :: _ => Action.note "Error: stream did not contain valid UTF-8\n"
  | some line :: lines =>
    match Request.ofLine line with
    | .nothing => course log lines
    | .leave => farewell
    | .reference => do
      Action.say Reference.page
      course log lines
    | .query name args => do
      answerName log name args
      course log lines

end NameQuery.Dialogue
