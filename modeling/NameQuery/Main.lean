import Mathlib.Tactic.DeprecateTo
import NameQuery.Console.Program

/-!
# The command line

The program with its surroundings taken from the process: arguments, environment, files and standard
input. Nothing is decided here; the files that settings may stand in are read first, the input only
for a dialogue, and what the run shows is written at its end. Log lines have the times at which they
are written; the clock is the one of `Std.Time`, which the first import brings along. Database files
are not among what can be opened here, so only a database in memory answers.
-/

set_option autoImplicit false

namespace NameQuery.CommandLine

def reason : IO.Error → String
  | .noFileOrDirectory .. => "No such file or directory (os error 2)"
  | .permissionDenied .. => "Permission denied (os error 13)"
  | other => toString other

def contentOf (path : String) : IO FileContent := do
  try
    let bytes ← IO.FS.readBinFile path
    match String.fromUTF8? bytes with
    | some text => return .text text
    | none => return .unreadable "stream did not contain valid UTF-8"
  catch why => return .absent (reason why)

def settingsDirectory : IO (Option String) := do
  let home := (← IO.getEnv "HOME").map (· ++ "/.config")
  match ← IO.getEnv "XDG_CONFIG_HOME" with
  | some path => return if path.startsWith "/" then some path else home
  | none => return home

partial def inputBytes (input : IO.FS.Stream) (read : ByteArray) : IO ByteArray := do
  let more ← input.read 65536
  if more.isEmpty then return read else inputBytes input (read ++ more)

def surroundings (args : List String) : IO Surroundings := do
  let user := (← settingsDirectory).map fun directory => directory ++ "/finder/" ++ Settings.fileName
  let (given, input) ← match Invocation.ofArguments args with
    | .error _ => pure (none, ByteArray.empty)
    | .ok i =>
      let input ← if i.command = .repl then inputBytes (← IO.getStdin) ByteArray.empty
        else pure ByteArray.empty
      pure (i.settingsFile, input)
  let contents ← (Settings.paths given user).mapM fun path => return (path, ← contentOf path)
  return {
    file := fun path => (contents.lookup path).getD (.absent "No such file or directory (os error 2)")
    place := fun _ => .vacant
    userSettings := user
    databaseUrl := ← IO.getEnv "FINDER_DATABASE_URL"
    input := input
    logs := true }

/-- The time now as a log writes it, in UTC. -/
def time : IO String := do
  let now ← Std.Time.Timestamp.now
  return (Std.Time.DateTime.ofTimestampWithZone now .UTC).format "uuuu-MM-dd'T'HH:mm:ss.SSSSSS'Z'"

/-- Writes what a run has shown to the side. -/
def writeSide (shown : Transcript) : IO Unit := do
  -- no note takes more than one time
  let times ← shown.err.mapM fun _ => time
  IO.eprint (shown.sideText fun n => times.getD n "")

end NameQuery.CommandLine

def main (args : List String) : IO UInt32 := do
  let ending := NameQuery.Program.run (← NameQuery.CommandLine.surroundings args) args
  IO.print ending.shown.out
  NameQuery.CommandLine.writeSide ending.shown
  return ending.code
