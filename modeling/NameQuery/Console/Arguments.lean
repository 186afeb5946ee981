import NameQuery.Console.Format
import NameQuery.Text.Pieces

/-!
# Command-line arguments

What the arguments of a program run ask for. Options come before or after the name of the command,
and what follows that name belongs to the command; the settings file and the verbosity may be given
in both places. An option is a letter after one dash or a word after two. Letters may stand
together, and the last of them takes the rest of its argument as a value; a word takes its value
after an equals sign; either takes the next argument where nothing is left, unless that looks like
an option itself. After two dashes alone nothing is an option.

What is decided here is also which arguments are refused: options that a command does not know,
options given twice in one place (values to bind apart), values that no option takes, and too many
or too few operands. The arguments are read from left to right, so help or the version is shown only
if nothing before the request for it is refused.
-/

set_option autoImplicit false

namespace NameQuery

inductive CommandName
  | compile
  | explain
  | run
  | keywords
  | repl
deriving DecidableEq

/-- The command that a word names. -/
def CommandName.ofWord? : String → Option CommandName
  | "compile" => some .compile
  | "explain" => some .explain
  | "run" => some .run
  | "keywords" => some .keywords
  | "repl" => some .repl
  | _ => none

inductive HelpTopic
  | program
  | command (c : CommandName)
  | help
deriving DecidableEq

/-- Why the arguments do not lead to a command. -/
inductive Interruption
  /-- They make no sense. -/
  | usage
  | version
  | help (topic : HelpTopic)
deriving DecidableEq

/-! ## Options -/

inductive Switch
  | config
  | verbose
  | help
  | version
  | arg
  | format
  | table
  | databaseUrl
deriving DecidableEq

namespace Switch

def letter? : Switch → Option Char
  | .config => some 'c'
  | .verbose => some 'v'
  | .help => some 'h'
  | .version => some 'V'
  | .arg => some 'a'
  | .format => some 'f'
  | .table => some 't'
  | .databaseUrl => none

def word : Switch → String
  | .config => "config"
  | .verbose => "verbose"
  | .help => "help"
  | .version => "version"
  | .arg => "arg"
  | .format => "format"
  | .table => "table"
  | .databaseUrl => "database-url"

def takesValue : Switch → Bool
  | .verbose | .help | .version => false
  | _ => true

/-- A value that an option takes. -/
def accepts : Switch → String → Bool
  | .config, path => !path.isEmpty
  | .format, word => (Format.ofWord? word).isSome
  | _, _ => true

end Switch

/-- The options that are known before the name of a command, or after it. -/
def knownSwitches : Option CommandName → List Switch
  | none => [.config, .verbose, .help, .version]
  | some .compile => [.config, .verbose, .help, .arg, .format]
  | some .explain => [.config, .verbose, .help, .table]
  | some .run => [.config, .verbose, .help, .table, .arg, .databaseUrl, .format]
  | some .keywords | some .repl => [.config, .verbose, .help]

def CommandName.operands : CommandName → Nat
  | .compile | .explain | .run => 1
  | .keywords | .repl => 0

/-! ## Reading -/

/-- What has been given in one place, options with their values. -/
structure Given where
  switches : List (Switch × String) := []
  operands : List String := []

namespace Given

def value? (g : Given) (s : Switch) : Option String := g.switches.lookup s

def values (g : Given) (s : Switch) : List String :=
  g.switches.filterMap fun (other, value) => if other = s then some value else none

def put (place : Option CommandName) (s : Switch) (value : String) (g : Given) :
    Except Interruption Given :=
  match s with
  | .help => .error (.help ((place.map HelpTopic.command).getD .program))
  | .version => .error .version
  | s =>
    if (s != .arg && (g.value? s).isSome) || !s.accepts value then .error .usage
    else .ok { g with switches := g.switches ++ [(s, value)] }

def addOperand (c : CommandName) (text : String) (g : Given) : Except Interruption Given :=
  if g.operands.length < c.operands then .ok { g with operands := g.operands ++ [text] }
  else .error .usage

/-- The options that stand together after one dash. The last one may still wait for its value. -/
def letters (place : Option CommandName) : List Char → Given →
    Except Interruption (Given × Option Switch)
  | [], g => .ok (g, none)
  | c :: cs, g =>
    match (knownSwitches place).find? fun s => s.letter? == some c with
    | none => .error .usage
    | some s =>
      if s.takesValue then
        match cs with
        | [] => .ok (g, some s)
        | '=' :: value => (g.put place s (String.ofList value)).map (·, none)
        | value => (g.put place s (String.ofList value)).map (·, none)
      else (g.put place s "").bind (letters place cs)

/-- The option of a word after two dashes. It may still wait for its value. -/
def word (place : Option CommandName) (cs : List Char) (g : Given) :
    Except Interruption (Given × Option Switch) :=
  let (name, value?) := match Text.cutOnce '=' cs with
    | some (name, value) => (name, some (String.ofList value))
    | none => (cs, none)
  match (knownSwitches place).find? fun s => s.word.toList == name with
  | none => .error .usage
  | some s =>
    match s.takesValue, value? with
    | true, some value => (g.put place s value).map (·, none)
    | true, none => .ok (g, some s)
    | false, none => (g.put place s "").map (·, none)
    | false, some _ => .error .usage

end Given

inductive ArgumentShape
  | closing
  | word (cs : List Char)
  | letters (cs : List Char)
  | operand
deriving DecidableEq

/-- The shape of an argument. A dash alone is an operand. -/
def ArgumentShape.of (arg : String) : ArgumentShape :=
  match arg.toList with
  | ['-', '-'] => .closing
  | '-' :: '-' :: cs => .word cs
  | '-' :: c :: cs => .letters (c :: cs)
  | _ => .operand

/-- What the arguments in one place give. Before the name of a command the reading ends there; after
it all arguments are read. -/
def Given.read (place : Option CommandName) : List String → Given →
    Except Interruption (Given × List String)
  | [], g => .ok (g, [])
  | arg :: args, g =>
    let option := fun (found : Except Interruption (Given × Option Switch)) =>
      match found with
      | .error why => .error why
      | .ok (g, none) => read place args g
      | .ok (g, some s) =>
        match args with
        | [] => .error .usage
        | value :: args =>
          if ArgumentShape.of value = .operand then (g.put place s value).bind (read place args)
          else .error .usage
    match ArgumentShape.of arg, place with
    | .word cs, _ => option (g.word place cs)
    | .letters cs, _ => option (g.letters place cs)
    | .operand, none => .ok (g, arg :: args)
    | .operand, some c => (g.addOperand c arg).bind (read place args)
    | .closing, none => .error .usage
    | .closing, some c =>
      (args.foldlM (fun (g : Given) text => g.addOperand c text) g).map (·, [])

/-! ## Commands -/

/-- A command with what it is about. -/
inductive Command
  | compile (name : String) (args : List String) (format : Option Format)
  | explain (name table : String)
  | run (name table : String) (args : List String) (url : Option String) (format : Option Format)
  | keywords
  | repl
deriving DecidableEq

/-- What a run of the program is asked for. -/
structure Invocation where
  /-- The settings file that is to be read, where one was given. -/
  settingsFile : Option String
  verbose : Bool
  command : Command
deriving DecidableEq

namespace Invocation

def commandOf (c : CommandName) (g : Given) : Except Interruption Command :=
  let format := (g.value? .format).bind Format.ofWord?
  match c, g.operands, g.value? .table with
  | .compile, [name], _ => .ok (.compile name (g.values .arg) format)
  | .explain, [name], table => .ok (.explain name (table.getD "records"))
  | .run, [name], some table =>
    .ok (.run name table (g.values .arg) (g.value? .databaseUrl) format)
  | .keywords, [], _ => .ok .keywords
  | .repl, [], _ => .ok .repl
  | _, _, _ => .error .usage

/-- The page of help that the words after `help` ask for. -/
def helpTopic : List String → Interruption
  | [] => .help .program
  | ["help"] => .help .help
  | [word] => ((CommandName.ofWord? word).map fun c => .help (.command c)).getD .usage
  | _ => .usage

def ofArguments (args : List String) : Except Interruption Invocation := do
  let (before, rest) ← Given.read none args {}
  match rest with
  | [] => .error .usage
  | "help" :: words => .error (helpTopic words)
  | word :: rest =>
    match CommandName.ofWord? word with
    | none => .error .usage
    | some c =>
      let (after, _) ← Given.read (some c) rest {}
      let command ← commandOf c after
      .ok {
        settingsFile := (after.value? .config).or (before.value? .config)
        verbose := (after.value? .verbose).isSome || (before.value? .verbose).isSome
        command := command }

end Invocation

end NameQuery
