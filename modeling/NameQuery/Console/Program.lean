import NameQuery.Console.Dialogue
import NameQuery.Console.Explanation
import NameQuery.Console.Help
import NameQuery.Settings
import NameQuery.Sql.Connection

/-!
# The program

A run of the program: its arguments are read, then the settings, then its command is carried out.
What is decided here is what comes first where several things go wrong. Arguments are refused before
the settings are looked at, and bad settings end the run whatever the command. A settings file that
was given has to be there; otherwise the file in the working directory counts, then the one of the
user, then the defaults. An address given with the command counts before the one of the
surroundings, and that before the settings; without any, a name is not even compiled, and a name
that cannot be compiled is not put to a database.
-/

set_option autoImplicit false

namespace NameQuery

/-- What stands at the path of a file. -/
inductive FileContent
  | text (content : String)
  /-- A file that is no text, with the reason. -/
  | unreadable (reason : String)
  /-- No file, with the reason why nothing can be read there. -/
  | absent (reason : String)

/-- What a run of the program finds around itself. -/
structure Surroundings where
  /-- What stands at a path. -/
  file : String → FileContent
  /-- What stands at the path of a database. -/
  place : String → Sql.Place
  /-- The path of the user's settings file. -/
  userSettings : Option String
  /-- The address of a database that the surroundings name. -/
  databaseUrl : Option String
  /-- The bytes to be read in a dialogue. -/
  input : ByteArray
  /-- A log is shown. -/
  logs : Bool

/-- The events that a run shows of its log. -/
def Surroundings.verbosity (s : Surroundings) (verbose : Bool) : Verbosity :=
  if !s.logs then .silent else if verbose then .debugging else .warnings

namespace Settings

def fileName : String := "finder.toml"

def ofFile (path : String) : FileContent → Except Failure Settings
  | .text content =>
    match ofText content with
    | .error (.config reason) => .error (.config (path ++ ": " ++ reason))
    | read => read
  | .unreadable reason | .absent reason => .error (.io reason)

/-- The paths where settings may stand: the one that was given, or else the ones to be tried. -/
def paths (given user : Option String) : List String :=
  match given with
  | some path => [path]
  | none => fileName :: user.toList

/-- The settings in the first of some files that exists, and the defaults where none does. -/
def firstOf (file : String → FileContent) : List String → Except Failure Settings
  | [] => .ok {}
  | path :: others =>
    match file path with
    | .absent _ => firstOf file others
    | content => ofFile path content

def load (s : Surroundings) : Option String → Except Failure Settings
  | some path => ofFile path (s.file path)
  | none => firstOf s.file (paths none s.userSettings)

end Settings

namespace Program

/-- A query put to the database at an address, and its answer. -/
def runQuery (s : Surroundings) (i : Invocation) (log : Verbosity) (settings : Settings)
    (name table : String) (args : List String) (url : Option String) (format : Option Format) :
    Action Unit := do
  let url := (url.or s.databaseUrl).or settings.url
  if url.isNone then
    throw "No database URL. Use --database-url, set FINDER_DATABASE_URL, or configure [database] url"
  let q ← Action.logged log (Query.compilation name (args.map Value.ofArgument))
  let c ← Action.attempt (Sql.Connection.open? s.place settings.maxConnections url)
  if i.verbose then
    let sql ← Action.attempt (c.sql table q)
    Action.say s!"SQL: {sql}\n"
  let found ← Action.logged log (c.finding table q)
  Action.say (Report.found found (format.getD settings.format))

def perform (s : Surroundings) (i : Invocation) : Action Unit := do
  let settings ← Action.attempt (Settings.load s i.settingsFile)
  let log := s.verbosity i.verbose
  match i.command with
  | .compile name args format =>
    let q ← Action.logged log (Query.compilation name (args.map Value.ofArgument))
    Action.say (Report.query q (format.getD settings.format))
  | .explain name table => Explanation.ofName log name table
  | .run name table args url format => runQuery s i log settings name table args url format
  | .keywords => Action.say Reference.page
  | .repl =>
    Action.say Dialogue.greeting
    Dialogue.course log (Dialogue.lines s.input)

def version : String := "finder 0.1.0\n"

/-- The ending of a run that carries out no command. -/
def interrupted (s : Surroundings) : Interruption → Ending
  | .usage =>
    ⟨{ err := [.message "error: the arguments make no sense\n\nUsage: finder [OPTIONS] <COMMAND>\n"] }, 2⟩
  | .version => ⟨{ out := version }, 0⟩
  | .help topic => ⟨{ out := Help.page s.databaseUrl topic }, 0⟩

def run (s : Surroundings) (args : List String) : Ending :=
  match Invocation.ofArguments args with
  | .error why => interrupted s why
  | .ok i => (perform s i).ending

end Program

end NameQuery
