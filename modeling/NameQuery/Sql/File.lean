import NameQuery.Sql.Address
import NameQuery.Sql.Database

/-!
# Database files

How SQLite comes from a location to a database (`Location.database`). A file name that begins with
`file:` is a URI with parameters of its own (`Opening.ofName`): its percent signs are decoded once
more, its modes may only narrow what the location allows, and its file system counts before that of
the location. Then the file system has to be known. A database in memory, one without a file and one
in the file system `memdb` are empty; every other one is what stands at the path.
-/

set_option autoImplicit false

namespace NameQuery.Sql

/-- What stands at the path of a database. -/
inductive Place
  | database (db : Database)
  | directory
  /-- Nothing, but a file can be made there. -/
  | vacant
  /-- Nothing, and no file can be made there. -/
  | barred

/-- An error that the database tells when it is opened, with its number. -/
def cannotOpen (code : Nat) (message : String) : Failure :=
  .connection s!"error returned from database: (code: {code}) {message}"

/-- What a file may be opened for. Each one includes those before it. -/
inductive Access
  | reading
  | writing
  | creating
deriving DecidableEq

namespace Access

def rank : Access → Nat
  | .reading => 0
  | .writing => 1
  | .creating => 2

/-- The access of a mode in a URI of a file. -/
def ofMode? (mode : String) : Option Access :=
  if mode = "ro" then some .reading
  else if mode = "rw" then some .writing
  else if mode = "rwc" then some .creating
  else none

end Access

/-- How a file is opened. -/
structure Opening where
  path : String
  access : Access
  inMemory : Bool
  fileSystem : Option String

namespace Opening

/-! ## URIs of files -/

/-- A part of a URI decoded, up to the first byte zero in it. -/
def part (cs : List Char) : String :=
  Text.Utf8.decodeLossy ((Url.decoded cs).takeWhile (· != 0))

/-- The parameters of a URI. One without a name is left out. -/
def parameters (cs : List Char) : List (String × String) :=
  ((Text.pieces '&' cs).filter fun p => p ≠ [] && p.head? != some '=').map fun p =>
    let (key, value) := (Text.cutOnce '=' p).getD (p, [])
    (part key, part value)

/-- An opening with what one parameter of a URI says. A mode allows no more than was allowed before,
except that a database in memory may become any file. -/
def withParameter (o : Opening) (key value : String) : Except Failure Opening :=
  if key = "vfs" then .ok { o with fileSystem := some value }
  else if key = "cache" then
    if ["shared", "private"].contains value then .ok o
    else .error (cannotOpen 1 s!"no such cache mode: {value}")
  else if key = "mode" then
    if value = "memory" then .ok { o with inMemory := true }
    else
      match Access.ofMode? value with
      | none => .error (cannotOpen 1 s!"no such access mode: {value}")
      | some access =>
        if access.rank ≤ o.access.rank || o.inMemory then
          .ok { o with access := access, inMemory := false }
        else .error (cannotOpen 3 s!"access mode not allowed: {value}")
  else .ok o

/-- An opening whose path is a URI, given without its scheme: a host, which has to be the own one, is
passed over, and so is a fragment. -/
def ofUri (o : Opening) (cs : List Char) : Except Failure Opening := do
  let cs ← match Text.withoutStart? "//".toList cs with
    | none => pure cs
    | some cs =>
      let (host, rest) := cs.span (· ≠ '/')
      if host.isEmpty || host = "localhost".toList then pure rest
      else .error (cannotOpen 1 s!"invalid uri authority: {String.ofList host}")
  let cs := cs.takeWhile (· ≠ '#')
  let (path, query) := (Text.cutOnce '?' cs).getD (cs, [])
  (parameters query).foldlM (fun o (key, value) => o.withParameter key value)
    { o with path := part path }

/-- How the file of a location is opened. -/
def ofLocation (l : Location) : Except Failure Opening :=
  let o : Opening :=
    { path := l.path
      access := if l.readOnly then .reading else if l.creating then .creating else .writing
      inMemory := l.inMemory
      fileSystem := l.fileSystem }
  let cs := l.path.toList
  if l.immutable then o.ofUri (cs ++ "?immutable=true".toList)
  else
    match Text.withoutStart? "file:".toList cs with
    | some rest => o.ofUri rest
    | none => .ok o

def fileSystems : List String := ["unix", "unix-none", "unix-dotfile", "unix-excl", "memdb"]

/-- The database that an opening gives, among what stands at paths. -/
def database (o : Opening) (place : String → Place) : Except Failure Database :=
  if o.inMemory || o.path.isEmpty || o.path = ":memory:" || o.fileSystem = some "memdb" then .ok {}
  else
    match place o.path, o.access with
    | .database db, _ => .ok db
    | .vacant, .creating => .ok {}
    | .directory, .reading => .error (cannotOpen 266 "disk I/O error")
    | _, _ => .error (cannotOpen 14 "unable to open database file")

end Opening

namespace Location

/-- A text that SQLite is not given because it holds a null character. -/
def holdsNull (what : String) : Failure :=
  .connection s!"error communicating with database: {what} passed to SQLite must not contain nul bytes"

def database (l : Location) (place : String → Place) : Except Failure Database := do
  if l.path.toList.contains '\x00' then throw (holdsNull "filename")
  if (l.fileSystem.getD "").toList.contains '\x00' then throw (holdsNull "vfs name")
  let o ← Opening.ofLocation l
  if let some name := o.fileSystem then
    if !Opening.fileSystems.contains name then throw (cannotOpen 1 s!"no such vfs: {name}")
  o.database place

end Location

end NameQuery.Sql
