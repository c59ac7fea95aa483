/-!
# Usage of the command line

The commands, their arguments and options, and the texts that explain them.

* `Command`, `Flag`, `Topic` — what the command line consists of
* `Topic.helpText` — the help on a command
* `Topic.usage` — the line that shows how a command is used
-/

namespace TlvSchema.CommandLine

/-! ### Commands and options -/

/-- The name of the program. -/
def programName : String := "tlvgen"

/-- The version of the program. -/
def programVersion : String := "0.1.0"

/-- The commands that work on a schema. -/
inductive Command where
  /-- List the fields of all containers. -/
  | fields
  /-- Summarize the models of all containers. -/
  | compile
deriving DecidableEq, Repr

/-- The name of the command. -/
def Command.name : Command → String
  | .fields => "fields"
  | .compile => "compile"

/-- What the command does. -/
def Command.purpose : Command → String
  | .fields => "Resolve and order the fields of every container, printing them to stdout"
  | .compile => "Build the model of every container, printing a summary to stdout"

/-- The options, none of which takes a value. -/
inductive Flag where
  /-- Write output in spite of errors. -/
  | allowErrors
  /-- Show the help. -/
  | help
  /-- Show the version. -/
  | version
deriving DecidableEq, Repr

/-- The name of the option without dashes. -/
def Flag.name : Flag → String
  | .allowErrors => "allow-errors"
  | .help => "help"
  | .version => "version"

/-- The option as it is written. -/
def Flag.display (f : Flag) : String := "--" ++ f.name

/-- The places of the command line that have a usage of their own. -/
inductive Topic where
  /-- The program itself. -/
  | program
  /-- A command. -/
  | command (c : Command)
  /-- The command that shows help. -/
  | help
deriving DecidableEq, Repr

namespace Topic

/-- The topic with a name. -/
def ofName? (name : String) : Option Topic :=
  if name = "fields" then some (.command .fields)
  else if name = "compile" then some (.command .compile)
  else if name = "help" then some .help
  else none

/-- The names of all commands. -/
def names : List String := ["fields", "compile", "help"]

/-- The options that may be given. -/
def flags : Topic → List Flag
  | .program => [.help, .version]
  | .command _ => [.allowErrors, .help]
  | .help => []

/-- The option with a name. -/
def flag? (t : Topic) (name : String) : Option Flag := t.flags.find? (·.name = name)

/-! ### Usage -/

/-- The argument that names the schema. -/
def schemaArgument : String := "<SCHEMA_FILE>"

/-- How the topic is called. -/
def path : Topic → String
  | .program => programName
  | .command c => programName ++ " " ++ c.name
  | .help => programName ++ " help"

/-- The arguments that have no names. -/
def arguments : Topic → String
  | .program => "<COMMAND>"
  | .command _ => schemaArgument
  | .help => "[COMMAND]..."

/-- How the topic is used in general. -/
def usage (t : Topic) : String :=
  "Usage: " ++ t.path ++ (if t.flags.contains .allowErrors then " [OPTIONS] " else " ") ++
    t.arguments

/-- How the topic is used with certain options. -/
def usageWith (t : Topic) (used : List Flag) : String :=
  "Usage: " ++ t.path ++ String.join (used.map (" " ++ ·.display)) ++ " " ++ t.arguments

/-- Something useful to do next, where there is. -/
def hint : Topic → String
  | .help => ""
  | _ => "\nFor more information, try '--help'.\n"

/-! ### Help -/

/-- Several lines. -/
def unlines (lines : List String) : String := String.join (lines.map (· ++ "\n"))

/-- The help on a topic. -/
def helpText : Topic → String
  | .program => unlines
    ["A compiler for reference-counted TLV message container schemas",
     "",
     usage .program,
     "",
     "Commands:",
     "  fields   " ++ Command.purpose .fields,
     "  compile  " ++ Command.purpose .compile,
     "  help     Print this message or the help of the given subcommand(s)",
     "",
     "Options:",
     "  -h, --help     Print help",
     "  -V, --version  Print version",
     "",
     "Examples:",
     "",
     "  $ tlvgen fields data/qmi-service-ctl.json",
     "  $ tlvgen compile --allow-errors data/qmi-service-nas.json",
     "",
     "Diagnostic logging is controlled by the `RUST_LOG` environment variable."]
  | .command c => unlines
    [c.purpose,
     "",
     usage (.command c),
     "",
     "Arguments:",
     "  <SCHEMA_FILE>  Path to a JSON schema",
     "",
     "Options:",
     "      --allow-errors  Continue even if errors were encountered",
     "  -h, --help          Print help"]
  | .help => unlines
    ["Print this message or the help of the given subcommand(s)",
     "",
     usage .help,
     "",
     "Arguments:",
     "  [COMMAND]...  Print help for the subcommand(s)"]

end Topic

end TlvSchema.CommandLine
