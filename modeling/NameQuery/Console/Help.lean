import NameQuery.Console.Arguments
import NameQuery.Console.Report

/-!
# Pages of help

The text that explains the program, and the one that explains each of its commands: a sentence, the
form of the arguments, and every operand and option on a line of its own. A line is there also for
what nothing is said about.
-/

set_option autoImplicit false

namespace NameQuery.Help

/-- The lines of a list of terms, what is said about them in one column. -/
def lines (heading : String) (entries : List (String × String)) : String :=
  let width := entries.foldl (fun width (term, _) => max width term.length) 0
  heading ++ ":\n" ++ String.join (entries.map fun (term, said) =>
    "  " ++ Report.padded (width + 2) term ++ said ++ "\n")

def configLine : String × String :=
  ("-c, --config <CONFIG>", "Config file (defaults to ./finder.toml, then the user config dir)")

def verboseLine : String × String := ("-v, --verbose", "Verbose output")

def helpLine : String × String := ("-h, --help", "Print help")

def formatValues : String := "[possible values: table, json]"

def summary : CommandName → String
  | .compile => "Compile a finder name and print its descriptor"
  | .explain => "Show tokens, descriptor and SQL for a finder name"
  | .run => "Execute a finder name against a database"
  | .keywords => "Show the reserved keyword reference"
  | .repl => "Interactive REPL mode"

/-- What the command for help does. -/
def helpSummary : String := "Print this message or the help of the given subcommand(s)"

def program : String :=
  "Compile camel-case finder names into queries\n\nUsage: finder [OPTIONS] <COMMAND>\n\n" ++
  lines "Commands" [
    ("compile", summary .compile),
    ("explain", summary .explain),
    ("run", summary .run),
    ("keywords", summary .keywords),
    ("repl", summary .repl),
    ("help", helpSummary)] ++ "\n" ++
  lines "Options" [configLine, verboseLine, helpLine, ("-V, --version", "Print version")] ++ "\n" ++
  "EXAMPLES:\n" ++
  "    finder compile findAll\n" ++
  "    finder compile findIdNameByNameAndStatus -a mike -a active --format json\n" ++
  "    finder explain findAllOrderedByIdDesc --table users\n" ++
  "    finder run findOneById --table users -a 2 --database-url sqlite://app.db\n"

/-- What the page about a command says after its sentence. The address of the database that the
surroundings name is shown with the option for it. -/
def details (databaseUrl : Option String) : CommandName → String
  | .compile =>
    "Usage: finder compile [OPTIONS] <NAME>\n\n" ++
    lines "Arguments" [("<NAME>", "The finder name, e.g. findOneById")] ++ "\n" ++
    lines "Options" [
      ("-a, --arg <ARGS>", "Positional arguments bound to the `?` placeholders"),
      configLine,
      ("-f, --format <FORMAT>", "Output format " ++ formatValues),
      verboseLine, helpLine]
  | .explain =>
    "Usage: finder explain [OPTIONS] <NAME>\n\n" ++
    lines "Arguments" [("<NAME>", "")] ++ "\n" ++
    lines "Options" [
      configLine,
      ("-t, --table <TABLE>", "Table used for the generated SQL [default: records]"),
      verboseLine, helpLine]
  | .run =>
    "Usage: finder run [OPTIONS] --table <TABLE> <NAME>\n\n" ++
    lines "Arguments" [("<NAME>", "")] ++ "\n" ++
    lines "Options" [
      configLine,
      ("-t, --table <TABLE>", ""),
      ("-a, --arg <ARGS>", ""),
      verboseLine,
      ("    --database-url <DATABASE_URL>",
        "Database connection URL [env: FINDER_DATABASE_URL=" ++ databaseUrl.getD "" ++ "]"),
      ("-f, --format <FORMAT>", formatValues),
      helpLine]
  | .keywords =>
    "Usage: finder keywords [OPTIONS]\n\n" ++ lines "Options" [configLine, verboseLine, helpLine]
  | .repl =>
    "Usage: finder repl [OPTIONS]\n\n" ++ lines "Options" [configLine, verboseLine, helpLine]

def page (databaseUrl : Option String) : HelpTopic → String
  | .program => program
  | .command c => summary c ++ "\n\n" ++ details databaseUrl c
  | .help =>
    helpSummary ++ "\n\nUsage: finder help [COMMAND]...\n\n" ++
      lines "Arguments" [("[COMMAND]...", "Print help for the subcommand(s)")]

end NameQuery.Help
