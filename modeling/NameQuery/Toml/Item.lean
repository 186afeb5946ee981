/-!
# TOML data

The values of a TOML document: texts, numbers, moments, lists and tables. A table remembers how it
came to be (`Origin`), because that decides who may still add to it. What is decided here is where
an entry goes (`alter`): a path leads from table to table, by the last element where it meets a list
of tables, and makes the tables that are missing. A table between braces is complete once it is
closed, so no path leads through it; a dotted key leads only through tables that no header has
named. A key is never given twice.

Numbers with a point and moments are kept as they are written.
-/

set_option autoImplicit false

namespace NameQuery.Toml

/-- How a table came to be. -/
inductive Origin
  /-- By a header of its own. The document and the elements of a list of tables count as such. -/
  | header
  /-- On the way to a table that a header names. -/
  | passed
  /-- On the way to the last part of a dotted key. -/
  | dotted
  /-- By braces. -/
  | braces
deriving DecidableEq

/-- A value of a document. -/
inductive Item
  | string (s : String)
  | integer (n : Int64)
  | float (text : String)
  | boolean (b : Bool)
  | moment (text : String)
  | array (elements : List Item)
  | table (origin : Origin) (entries : List (String × Item))
  /-- The tables that headers in double brackets make, in their order. -/
  | tables (elements : List (List (String × Item)))

instance : Inhabited Item := ⟨.boolean false⟩

/-- The entries of a table, in the order in which they came. -/
abbrev Entries := List (String × Item)

/-- A key: its last part, and the parts before it, which lead to a table. -/
structure Key where
  path : List String
  name : String
deriving DecidableEq

/-- Where a path stands. -/
inductive Route
  | header
  | dotted
deriving DecidableEq

namespace Route

/-- What a path makes of a table that is missing on its way. -/
def makes : Route → Origin
  | .header => .passed
  | .dotted => .dotted

/-- A path leads through a table of the given origin. -/
def passes : Route → Origin → Bool
  | .header, origin => origin != .braces
  | .dotted, origin => origin == .passed || origin == .dotted

end Route

namespace Entries

/-- Entries with another value in the place of the one under a key. -/
def replace (key : String) (item : Item) : Entries → Entries
  | [] => []
  | (k, i) :: es => if k = key then (k, item) :: es else (k, i) :: replace key item es

/-- Entries after a change of the table at the end of a path. Nothing where the path meets a value
that it does not lead through, or where the change is refused. -/
def alter (route : Route) (change : Origin → Entries → Option Entries) :
    List String → Origin → Entries → Option Entries
  | [], origin, es => change origin es
  | key :: path, _, es =>
    match es.lookup key with
    | none =>
      (alter route change path route.makes []).map fun inner => es ++ [(key, .table route.makes inner)]
    | some (.table origin inner) =>
      if route.passes origin then
        (alter route change path origin inner).map fun inner => es.replace key (.table origin inner)
      else none
    | some (.tables elements) =>
      match elements.getLast? with
      | some last =>
        (alter route change path .header last).map fun last =>
          es.replace key (.tables (elements.dropLast ++ [last]))
      | none => none
    | some _ => none

/-- Entries with one more value under a key. A key of several parts ends in a table that such keys
have made. -/
def put (key : Key) (item : Item) (origin : Origin) (es : Entries) : Option Entries :=
  alter .dotted (fun origin es =>
    if (key.path.isEmpty || origin == .dotted) && (es.lookup key.name).isNone then
      some (es ++ [(key.name, item)])
    else none) key.path origin es

/-- Entries with a table that a header names. A table that other headers have passed keeps its
entries; any other value under the key is in the way. -/
def openTable (key : Key) : Entries → Option Entries :=
  alter .header (fun _ es =>
    match es.lookup key.name with
    | none => some (es ++ [(key.name, .table .header [])])
    | some (.table .passed inner) => some (es.replace key.name (.table .header inner))
    | some _ => none) key.path .header

/-- Entries with one more table at the end of a list of tables. -/
def openElement (key : Key) : Entries → Option Entries :=
  alter .header (fun _ es =>
    match es.lookup key.name with
    | none => some (es ++ [(key.name, .tables [[]])])
    | some (.tables elements) => some (es.replace key.name (.tables (elements ++ [[]])))
    | some _ => none) key.path .header

end Entries

end NameQuery.Toml
