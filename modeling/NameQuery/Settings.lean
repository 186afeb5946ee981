import NameQuery.Console.Format
import NameQuery.Failure
import NameQuery.Toml.Document

/-!
# Settings

What a settings file can say: in its section `database` the address of a database and the number of
connections to it, in its section `output` the format. Everything may be missing and has a default
then; keys that are not known are ignored.

What is decided here is in which forms a section and its fields may be written. A section is a
table, or a list of its fields in their order, with fields missing at the end or further elements
after them; a moment counts as a section that says nothing. A format is a word, or a table whose
only key is that word over something empty. Anything else makes the settings unusable.
-/

set_option autoImplicit false

namespace NameQuery

/-- What a settings file says. -/
structure Settings where
  /-- The address of a database. -/
  url : Option String := none
  /-- How many connections to the database there may be. -/
  maxConnections : UInt32 := 5
  format : Format := .table
deriving DecidableEq

namespace Settings

open Toml (Item Entries)

/-- The section of a document, empty where it is missing. Nothing where the value is no section. -/
def section? (name : String) (document : Entries) : Option Item :=
  match document.lookup name with
  | none => some (.table .header [])
  | some (.string _) | some (.integer _) | some (.float _) | some (.boolean _) => none
  | some item => some item

/-- The field of a section, which has a name and a place. -/
def fieldIn? (name : String) (place : Nat) : Item → Option Item
  | .table _ entries => entries.lookup name
  | .array elements => elements[place]?
  | .tables elements => (elements[place]?).map (Item.table .header)
  | _ => none

/-- A field that is read where it is given. Nothing where it cannot be read. -/
def field {α : Type} (read? : Item → Option α) (missing : α) : Option Item → Option α
  | some item => read? item
  | none => some missing

def url? : Item → Option (Option String)
  | .string s => some (some s)
  | _ => none

def maxConnections? : Item → Option UInt32
  | .integer n =>
    if 0 ≤ n.toInt && n.toInt < UInt32.size then some (UInt32.ofNat n.toInt.toNat) else none
  | _ => none

def isEmptyItem : Item → Bool
  | .array elements => elements.isEmpty
  | .table _ entries => entries.isEmpty
  | .tables elements => elements.isEmpty
  | _ => false

def format? : Item → Option Format
  | .string s => Format.ofWord? s
  | .table _ [(key, item)] => if isEmptyItem item then Format.ofWord? key else none
  | _ => none

def ofEntries? (document : Entries) : Option Settings := do
  let database ← section? "database" document
  let output ← section? "output" document
  some {
    url := ← field url? none (fieldIn? "url" 0 database)
    maxConnections := ← field maxConnections? 5 (fieldIn? "max_connections" 1 database)
    format := ← field format? .table (fieldIn? "format" 0 output) }

def ofText? (text : String) : Option Settings := (Entries.ofText? text).bind ofEntries?

/-- The settings in a text, or why it has none. The place of a fault is not reported. -/
def ofText (text : String) : Except Failure Settings :=
  match ofText? text with
  | some settings => .ok settings
  | none => .error (.config "TOML parse error")

end Settings

end NameQuery
