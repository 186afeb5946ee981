import NameQuery.Failure
import NameQuery.Name.Clauses
import NameQuery.Name.Keyword

/-!
# Reading the words of a name

The grammar of finder names over their words. The words before the first keyword are columns; from
there on every keyword has a rule of its own for the words that follow it:

* `all` and `one` select every column, `one` limits to one row as well; a word after them has to be a
  keyword;
* `by` takes the fields up to the next keyword as predicates;
* `and` takes one field as a predicate and ends the reading, or goes on with a keyword;
* `ordered` needs `by` and one more word: a keyword goes on, a field orders the rows, with `asc` or
  `desc` after it as its direction, and ends the reading.

A reading answers with an `Outcome`: the clauses as the rules left them, also where it fails; the
steps it took, which a log can show; and the failure, if there was one. It passes over the words
once, from left to right, and recurses on them. Words behind the end of a reading change nothing but
the log.
-/

set_option autoImplicit false

namespace NameQuery.Name

/-- What a reading does that a log can show. -/
inductive Step
  /-- The rule of a keyword takes over the words after it. -/
  | rule (keyword : Keyword) (remaining : List String)
  /-- Words after the field of `and` are passed over. -/
  | ignoredAfterField (field : String) (ignored : List String)
  /-- Words after an order entry are passed over. -/
  | ignoredAfterOrder (ignored : List String)
deriving DecidableEq

/-- What a reading comes to. -/
structure Outcome where
  clauses : Clauses
  steps : List Step
  failure : Option Failure
deriving DecidableEq

namespace Outcome

/-- A reading that ends well. -/
def done (c : Clauses) : Outcome := ⟨c, [], none⟩

/-- A reading that cannot go on. -/
def failed (c : Clauses) (why : Failure) : Outcome := ⟨c, [], some why⟩

/-- A reading with a step before its own. -/
def after (step : Step) (o : Outcome) : Outcome := { o with steps := step :: o.steps }

end Outcome

/-- Where a reading stands among the words. -/
inductive Place
  /-- Before the first keyword. -/
  | columns
  /-- Under the rule of a keyword. -/
  | under (k : Keyword)
deriving DecidableEq

/-- The order entry of a field and the words after it, and the words that the entry leaves. -/
def orderEntry (field : String) : List String → String × List String
  | "asc" :: rest => (field ++ " asc", rest)
  | "desc" :: rest => (field ++ " desc", rest)
  | rest => (field, rest)

/-- The end of a reading in the field of `and`. -/
def endInField (c : Clauses) (field : String) (rest : List String) : Outcome :=
  ⟨c.addPredicate field, if rest.isEmpty then [] else [.ignoredAfterField field rest], none⟩

/-- The end of a reading in an order entry. -/
def endInOrder (c : Clauses) (field : String) (rest : List String) : Outcome :=
  let (entry, rest) := orderEntry field rest
  ⟨c.addOrder entry, if rest.isEmpty then [] else [.ignoredAfterOrder rest], none⟩

/-- The reading of words from a place on, which adds to clauses. -/
def read : Place → List String → Clauses → Outcome
  | .columns, [], c => .done c
  | .columns, w :: ws, c =>
    match Keyword.ofWord? w with
    | none => read .columns ws (c.addColumn w)
    | some k => (read (.under k) ws c).after (.rule k ws)
  | .under .all, [], c => .done c.addEveryColumn
  | .under .all, w :: ws, c =>
    match Keyword.ofWord? w with
    | none => .failed c.addEveryColumn (.unknownContinuation w)
    | some k => (read (.under k) ws c.addEveryColumn).after (.rule k ws)
  | .under .one, [], c => .done c.addEveryColumn.limitToOne
  | .under .one, w :: ws, c =>
    match Keyword.ofWord? w with
    | none => .failed c.addEveryColumn.limitToOne (.unknownContinuation w)
    | some k => (read (.under k) ws c.addEveryColumn.limitToOne).after (.rule k ws)
  | .under .by, [], c => .done c
  | .under .by, w :: ws, c =>
    match Keyword.ofWord? w with
    | none => read (.under .by) ws (c.addPredicate w)
    | some k => (read (.under k) ws c).after (.rule k ws)
  | .under .and, [], c => .done c
  | .under .and, w :: ws, c =>
    match Keyword.ofWord? w with
    | none => endInField c w ws
    | some k => (read (.under k) ws c).after (.rule k ws)
  | .under .ordered, "by" :: w :: ws, c =>
    match Keyword.ofWord? w with
    | none => endInOrder c w ws
    | some k => (read (.under k) ws c).after (.rule k ws)
  | .under .ordered, _, c => .failed c .malformedOrder

/-- The reading of all the words of a name. -/
def readWords (ws : List String) (c : Clauses) : Outcome := read .columns ws c

/-- The reading of the words after a keyword. -/
def readAfter (k : Keyword) (ws : List String) (c : Clauses) : Outcome :=
  (read (.under k) ws c).after (.rule k ws)

end NameQuery.Name
