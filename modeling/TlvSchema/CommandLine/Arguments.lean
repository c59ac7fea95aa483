import TlvSchema.CommandLine.Usage
import TlvSchema.Text.ControlSequence
import TlvSchema.Text.Similarity

/-!
# Arguments of the command line

The arguments are read from left to right, and the first one that does not fit ends the reading.  Help
and version are shown as soon as they are asked for.

* `Invocation` — a command on a source
* `Request` — what the arguments ask for
* `Fault` — what can be wrong with them
* `parse` — reading the arguments
-/

namespace TlvSchema.CommandLine

/-! ### Requests -/

/-- Where a schema comes from. -/
inductive Origin where
  /-- From standard input. -/
  | standardInput
  /-- From a file. -/
  | file (path : String)
deriving DecidableEq, Repr

/-- A lone dash stands for standard input. -/
def Origin.ofArgument (argument : String) : Origin :=
  if argument = "-" then .standardInput else .file argument

/-- A command on a source. -/
structure Invocation where
  /-- The command. -/
  command : Command
  /-- Output is written in spite of errors. -/
  allowErrors : Bool
  /-- The source. -/
  origin : Origin
deriving DecidableEq, Repr

/-- What the arguments ask for. -/
inductive Request where
  /-- The help on a topic. -/
  | help (topic : Topic)
  /-- The version. -/
  | version
  /-- A command. -/
  | run (invocation : Invocation)
deriving DecidableEq, Repr

/-! ### Faults -/

/-- Advice on an option that does not exist. -/
inductive Advice where
  /-- There is none. -/
  | none
  /-- There is an option like it. -/
  | similar (flag : Flag)
  /-- A command has an option like it. -/
  | elsewhere (command : String) (flag : Flag)
  /-- It may be meant as a value. -/
  | asValue
deriving DecidableEq, Repr

/-- What can be wrong with the arguments of a topic. -/
inductive Fault where
  /-- There is no command. -/
  | noCommand
  /-- A command does not exist. -/
  | unknownCommand (topic : Topic) (name : String) (similar : List String)
  /-- A command follows the dashes that end the options. -/
  | commandAfterDashes (name : String)
  /-- An argument does not fit; some options have been given by then, or else arguments at all. -/
  | unexpected (topic : Topic) (argument : String) (advice : Advice) (used : Option (List Flag))
  /-- A value is given to an option. -/
  | unexpectedValue (topic : Topic) (flag : Flag) (value : String) (used : List Flag)
  /-- An option is given twice. -/
  | repeated (topic : Topic) (flag : Flag)
  /-- The source is missing. -/
  | noSource (command : Command) (used : List Flag)
deriving DecidableEq, Repr

namespace Fault

/-- What is wrong.  Arguments are shown as plain text, so that they give no orders to a terminal. -/
def message : Fault → String
  | .noCommand => ""
  | .unknownCommand _ name _ => "unrecognized subcommand '" ++ Text.plain name ++ "'"
  | .commandAfterDashes name => "unexpected argument '" ++ Text.plain name ++ "' found"
  | .unexpected _ argument _ _ => "unexpected argument '" ++ Text.plain argument ++ "' found"
  | .unexpectedValue _ flag value _ =>
    "unexpected value '" ++ Text.plain value ++ "' for '" ++ flag.display ++
      "' found; no more were expected"
  | .repeated _ flag =>
    "the argument '" ++ flag.display ++ "' cannot be used multiple times"
  | .noSource _ _ =>
    "the following required arguments were not provided:\n  " ++ Topic.schemaArgument

/-- Advice on what may have been meant. -/
def tip? : Fault → Option String
  | .unknownCommand _ _ [] => none
  | .unknownCommand _ _ [name] => some ("a similar subcommand exists: '" ++ name ++ "'")
  | .unknownCommand _ _ names =>
    some ("some similar subcommands exist: " ++
      String.intercalate ", " (names.map fun name => "'" ++ name ++ "'"))
  | .commandAfterDashes name =>
    some ("subcommand '" ++ name ++ "' exists; to use it, remove the '--' before it")
  | .unexpected _ argument advice _ => match advice with
    | .none => none
    | .similar flag => some ("a similar argument exists: '" ++ flag.display ++ "'")
    | .elsewhere command flag => some ("'" ++ command ++ " " ++ flag.display ++ "' exists")
    | .asValue =>
      some ("to pass '" ++ Text.plain argument ++ "' as a value, use '-- " ++
        Text.plain argument ++ "'")
  | _ => none

/-- Where the fault is. -/
def topic : Fault → Topic
  | .noCommand | .commandAfterDashes _ => .program
  | .unknownCommand topic _ _ => topic
  | .unexpected topic _ _ _ => topic
  | .unexpectedValue topic _ _ _ => topic
  | .repeated topic _ => topic
  | .noSource command _ => .command command

/-- How the command line is used, given what has been used of it. -/
def usage (f : Fault) : String :=
  match f with
  | .unexpected topic _ _ (some used) => topic.usageWith used
  | .unexpectedValue topic _ _ used => topic.usageWith used
  | .noSource command used => Topic.usageWith (.command command) used
  | _ => f.topic.usage

/-- The report on the fault. -/
def report (f : Fault) : String :=
  match f with
  | .noCommand => Topic.helpText .program
  | _ =>
    "error: " ++ f.message ++ "\n\n" ++
      (match f.tip? with
        | some tip => "  tip: " ++ tip ++ "\n\n"
        | none => "") ++
      f.usage ++ "\n" ++ f.topic.hint

end Fault

/-! ### Options -/

/-- An argument by its form. -/
inductive Form where
  /-- Two dashes alone. -/
  | dashes
  /-- Two dashes and a name, and perhaps a value after an equals sign. -/
  | long (name : String) (value : Option String)
  /-- One dash and a letter. -/
  | short (letter : Char)
  /-- Anything else. -/
  | plain
deriving DecidableEq, Repr

/-- The form of an argument. -/
def formOf (argument : String) : Form :=
  match argument.toList with
  | ['-', '-'] => .dashes
  | '-' :: '-' :: cs =>
    let name := cs.takeWhile (· != '=')
    let value := match cs.drop name.length with
      | [] => none
      | _ :: value => some (String.ofList value)
    .long (String.ofList name) value
  | '-' :: letter :: _ => .short letter
  | _ => .plain

/-- The option of a topic that looks most like a name. -/
def similarFlag? (topic : Topic) (name : String) : Option Flag := do
  let similar ← (Text.similarWords name (topic.flags.map Flag.name)).getLast?
  topic.flag? similar

/-- The place at which something stands in a list first. -/
def placeOf? (argument : String) (arguments : List String) : Option Nat :=
  arguments.findIdx? (· = argument)

/-- Of the commands that follow, the first one that has an option like the name. -/
def flagElsewhere? (name : String) (later : List String) : Option (String × Flag) :=
  let found (c : Command) : Option (Nat × String × Flag) := do
    let flag ← similarFlag? (.command c) name
    let place ← placeOf? c.name later
    pure (place, c.name, flag)
  match found .fields, found .compile with
  | some a, some b => some (if b.1 < a.1 then b.2 else a.2)
  | some a, none => some a.2
  | none, some b => some b.2
  | none, none => none

/-- Add an option to the used ones. -/
def use (flag : Flag) (used : List Flag) : List Flag :=
  if used.contains flag then used else used ++ [flag]

/-! ### Arguments of a command -/

/-- What has been read of the arguments of a command. -/
structure Draft where
  /-- The source. -/
  origin : Option Origin
  /-- The options. -/
  used : List Flag

namespace Draft

/-- Nothing has been read. -/
def empty : Draft := ⟨none, []⟩

/-- The options that have been used, if anything has. -/
def usedAny (d : Draft) : Option (List Flag) :=
  if d.origin.isNone && d.used.isEmpty then none else some d.used

/-- The request that the arguments make up. -/
def finish (c : Command) (d : Draft) : Except Fault Request :=
  match d.origin with
  | some origin => .ok (.run ⟨c, d.used.contains .allowErrors, origin⟩)
  | none => .error (.noSource c d.used)

/-- Read an argument that is no option. -/
def addPlain (c : Command) (d : Draft) (argument : String) : Except Fault Draft :=
  match d.origin with
  | none => .ok { d with origin := some (.ofArgument argument) }
  | some _ => .error (.unexpected (.command c) argument .none none)

/-- An option that the command does not have. -/
def unknownLong (c : Command) (d : Draft) (name : String) : Fault :=
  let argument := "--" ++ name
  match similarFlag? (.command c) name with
  | some flag => .unexpected (.command c) argument (.similar flag) (some (use flag d.used))
  | none => .unexpected (.command c) argument .asValue d.usedAny

end Draft

/-- Read the arguments of a command; after the two dashes none of them is an option. -/
def parseCommand (c : Command) : (d : Draft) → (dashes : Bool) → List String → Except Fault Request
  | d, _, [] => d.finish c
  | d, true, argument :: later => do
    let d ← d.addPlain c argument
    parseCommand c d true later
  | d, false, argument :: later =>
    match formOf argument with
    | .dashes => parseCommand c d true later
    | .plain => do
      let d ← d.addPlain c argument
      parseCommand c d false later
    | .short letter =>
      if letter = 'h' then .ok (.help (.command c))
      else .error (.unexpected (.command c) ("-" ++ letter.toString) .asValue none)
    | .long name value => match Topic.flag? (.command c) name, value with
      | none, _ => .error (d.unknownLong c name)
      | some flag, some value =>
        .error (.unexpectedValue (.command c) flag value (use flag d.used))
      | some .allowErrors, none =>
        if d.used.contains .allowErrors then .error (.repeated (.command c) .allowErrors)
        else parseCommand c { d with used := use .allowErrors d.used } false later
      | some _, none => .ok (.help (.command c))

/-! ### Arguments of the program -/

/-- Read the names of the commands that help is wanted for. -/
def parseHelp : (topic : Topic) → List String → Except Fault Request
  | topic, [] => .ok (.help topic)
  | .program, name :: later => match Topic.ofName? name with
    | some topic => parseHelp topic later
    | none => .error (.unknownCommand .program name [])
  | topic, name :: _ => .error (.unknownCommand topic name [])

/-- An option that the program itself does not have. -/
def unknownLong (name : String) (later : List String) : Fault :=
  let argument := "--" ++ name
  match similarFlag? .program name with
  | some flag => .unexpected .program argument (.similar flag) (some [flag])
  | none => match flagElsewhere? name later with
    | some (command, flag) => .unexpected .program argument (.elsewhere command flag) none
    | none => .unexpected .program argument .none none

/-- The fault of an argument that is no command. -/
def unknownCommand (name : String) : Fault :=
  .unknownCommand .program name (Text.similarWords name Topic.names)

/-- Read an argument that is no option, which should be a command. -/
def parseName (name : String) (later : List String) : Except Fault Request :=
  match Topic.ofName? name with
  | some (.command c) => parseCommand c .empty false later
  | some _ => parseHelp .program later
  | none => .error (unknownCommand name)

/-- Read the arguments of the program. -/
def parse : List String → Except Fault Request
  | [] => .error .noCommand
  | argument :: later => match formOf argument with
    | .plain => parseName argument later
    | .dashes => match later with
      | [] => .error .noCommand
      | name :: _ =>
        .error (if (Topic.ofName? name).isSome then .commandAfterDashes name
          else unknownCommand name)
    | .short letter =>
      if letter = 'h' then .ok (.help .program)
      else if letter = 'V' then .ok .version
      else .error (.unexpected .program ("-" ++ letter.toString) .none none)
    | .long name value => match Topic.flag? .program name, value with
      | none, _ => .error (unknownLong name later)
      | some flag, some value => .error (.unexpectedValue .program flag value [flag])
      | some .version, none => .ok .version
      | some _, none => .ok (.help .program)

end TlvSchema.CommandLine
