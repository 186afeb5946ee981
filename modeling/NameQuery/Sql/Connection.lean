import NameQuery.Query.Compile
import NameQuery.Sql.Answer
import NameQuery.Sql.File
import NameQuery.Table.Found

/-!
# Connections

What opens a connection to the database at an address (`Connection.open?`), and what a connection
does with a query (`Connection.find`): the values are counted, the statement is written, which can
fail for a field that is no identifier, and only then the database is asked.
-/

set_option autoImplicit false

namespace NameQuery.Sql

/-- A database and the placeholders that its address asks for. -/
structure Connection where
  database : Database
  style : Placeholder

namespace Connection

/-- No connection came to be in the time that there is. -/
def timedOut : Failure := .connection "pool timed out while waiting for an open connection"

/-- The connection to the database that an address names, where files stand at paths. The address has
to be a URL; then there has to be room for a connection. No server answers. -/
def open? (place : String → Place) (maxConnections : UInt32) :
    Option String → Except Failure Connection
  | none => .error (.config "no database url configured")
  | some text => do
    let url ← Address.url text
    if maxConnections = 0 then throw timedOut
    match ← Address.ofUrl url with
    | .server => throw timedOut
    | .file location => return ⟨← location.database place, .forUrl text⟩

/-- The text of the statement that a connection sends for a query. -/
def sql (c : Connection) (table : String) (q : Query) : Except Failure String := q.sql c.style table

/-- The statement that a connection sends for a query, and what the database answers. -/
def sent (c : Connection) (table : String) (q : Query) :
    Except Failure (String × Except Failure Found) := do
  q.checkBindings
  let statement ← Statement.ofQuery q table
  let answer := c.database.answer c.style statement (q.values.map Cell.ofValue)
  return (statement.text c.style, answer.map (Found.ofRows q.wantsOne))

/-- What a connection finds for a query, with the event of the statement that goes out. -/
def finding (c : Connection) (table : String) (q : Query) : Traced Found :=
  match c.sent table q with
  | .error why => ⟨[], .error why⟩
  | .ok (sql, found) => ⟨[.executing sql q.values.length], found⟩

def find (c : Connection) (table : String) (q : Query) : Except Failure Found :=
  (c.finding table q).result

instance : Backend Connection := ⟨find⟩

end Connection

end NameQuery.Sql
