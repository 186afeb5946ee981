import NameQuery.Failure
import NameQuery.Text.Quoted
import NameQuery.Url.Basic

/-!
# Addresses

An address says where a database is: `sqlite:` and a path, or `sqlite::memory:` for a database of
its own. It is a URL, and what is decided here is which databases URLs name: the scheme says what
kind of database it is, and for SQLite the path says where its file is and the query how the file is
opened (`Location`). Of two modes the later one counts, but what is only read stays so.
-/

set_option autoImplicit false

namespace NameQuery.Sql

/-- What an address of SQLite says. -/
structure Location where
  /-- The path of the file, empty for a database of its own. -/
  path : String
  inMemory : Bool := false
  readOnly : Bool := false
  /-- The file is made if it does not exist. -/
  creating : Bool := false
  /-- The file is taken not to change. -/
  immutable : Bool := false
  /-- The name of the file system to be used. -/
  fileSystem : Option String := none
deriving DecidableEq

inductive Address
  | file (location : Location)
  /-- A database on a server. -/
  | server
deriving DecidableEq

/-- An address that cannot be used. -/
def misconfigured (reason : String) : Failure := .connection s!"error with configuration: {reason}"

namespace Location

/-- A value that a parameter does not take. -/
def unknownValue (key value : String) : Failure :=
  misconfigured ("unknown value " ++ Text.quoted value ++ " for \x60" ++ key ++ "\x60")

/-- A location with one more mode in which its database is opened. -/
def withMode (l : Location) (mode : String) : Except Failure Location :=
  if mode = "ro" then .ok { l with readOnly := true }
  else if mode = "rw" then .ok l
  else if mode = "rwc" then .ok { l with creating := true }
  else if mode = "memory" then .ok { l with inMemory := true }
  else .error (unknownValue "mode" mode)

/-- A location with what one parameter says about how its database is opened. -/
def withParameter (l : Location) (key value : String) : Except Failure Location :=
  if key = "mode" then l.withMode value
  else if key = "cache" then
    if ["private", "shared"].contains value then .ok l else .error (unknownValue key value)
  else if key = "immutable" then
    if ["true", "1"].contains value then .ok { l with immutable := true }
    else if ["false", "0"].contains value then .ok { l with immutable := false }
    else .error (unknownValue key value)
  else if key = "vfs" then .ok { l with fileSystem := some value }
  else
    .error (misconfigured s!"unknown query parameter `{key}` while parsing connection URL")

/-- The location of a database by its path and the parameters after it. -/
def ofPath (path : List Char) (parameters : List (String × String)) : Except Failure Location := do
  let start : Location ←
    if path = ":memory:".toList then pure { path := "", inMemory := true }
    else
      match Text.Utf8.decode (Url.decoded path) with
      | .ok path => pure { path }
      | .error fault => .error (misconfigured fault.message)
  parameters.foldlM (fun l (key, value) => l.withParameter key value) start

/-- A text without a beginning as often as it begins with it. The fuel is the number of characters. -/
def withoutStarts (start : List Char) : Nat → List Char → List Char
  | 0, cs => cs
  | fuel + 1, cs =>
    match Text.withoutStart? start cs with
    | some rest => withoutStarts start fuel rest
    | none => cs

/-- The location that a URL of SQLite names: its text without the scheme, with two slashes or
without, up to the first question mark. -/
def ofUrl (url : Url) : Except Failure Location :=
  let cs := (url.scheme ++ ":").toList ++ url.rest
  let cs := withoutStarts "sqlite://".toList cs.length cs
  let cs := withoutStarts "sqlite:".toList cs.length cs
  let (path, query) := (Text.cutOnce '?' cs).getD (cs, [])
  ofPath path (Url.parameters query)

end Location

namespace Address

def url (text : String) : Except Failure Url :=
  match Url.ofText? text with
  | .ok url => .ok url
  | .error defect => .error (misconfigured defect.message)

/-- The database that a URL names by its scheme. -/
def ofUrl (url : Url) : Except Failure Address :=
  if url.scheme = "sqlite" then (Location.ofUrl url).map .file
  else if ["postgres", "postgresql"].contains url.scheme then .ok .server
  else .error (misconfigured ("no driver found for URL scheme " ++ Text.quoted url.scheme))

end Address

end NameQuery.Sql
