import TlvSchema.CommandLine.Arguments
import TlvSchema.Session

/-!
# The command line

A run of the program depends on its arguments, on the source, and on what it finds around it: the width of
the terminal, and which events of the log are to be shown.  The log and the diagnostics share standard error.

* `Ending` — what a run of the program leaves behind
* `Environment` — what a run of the program finds around it
* `Invocation.run` — the run of a command on the contents of its source
* `Request.ending`, `Fault.ending` — all other runs
* `runIn` — the run of the program with some arguments
-/

namespace TlvSchema.CommandLine

/-- What a run of the program leaves behind. -/
structure Ending where
  /-- The exit code. -/
  exitCode : Nat
  /-- What was written to standard output. -/
  output : String
  /-- What was written to standard error. -/
  errors : String
deriving DecidableEq, Repr

/-! ### The environment -/

/-- What a run of the program finds around it. -/
structure Environment where
  /-- The number of columns of the terminal, if there is one. -/
  columns : Option Nat
  /-- Which events are shown on standard error. -/
  shows : Event → Bool
  /-- The text that an event is shown as, given how many events have been shown before it.  It has the time
  in it, so that it is not the same in all runs. -/
  line : Nat → Event → String

/-- The events that are shown unless the environment says otherwise. -/
def shownByDefault : Event → Bool := Event.reaches .warn

namespace Environment

/-- There is no terminal, and no event is shown. -/
def silent : Environment := ⟨none, fun _ => false, fun _ _ => ""⟩

/-- The greatest width of the output. -/
def greatestWidth : Nat := 80

variable (env : Environment)

/-- The width of the output. -/
def width : Nat := (env.columns.map (min · greatestWidth)).getD greatestWidth

/-- What standard error shows of some entries, given how many events have been shown before them. -/
def shown : (before : Nat) → List Entry → String
  | _, [] => ""
  | before, .written text :: entries => text ++ shown before entries
  | before, .event e :: entries =>
    if env.shows e then env.line before e ++ shown (before + 1) entries else shown before entries

end Environment

/-! ### Commands -/

/-- The name of the source in diagnostics. -/
def Origin.name : Origin → String
  | .standardInput => "<stdin>"
  | .file path => path

/-- Load the source and run the command on it. -/
def Invocation.perform (i : Invocation) (content : Except ReadError ByteArray) :
    SessionM Status := do
  match ← Session.readSource i.origin.name content with
  | none => pure .failure
  | some number => match i.command with
    | .fields => Session.fields number
    | .compile => Session.compile number

/-- The session at the start of a run. -/
def Invocation.session (i : Invocation) (env : Environment) : Session :=
  { Session.empty with allowErrors := i.allowErrors, width := some env.width }

/-- The run of a command on the contents of its source. -/
def Invocation.run (i : Invocation) (env : Environment) (content : Except ReadError ByteArray) :
    Ending :=
  let result := (i.perform content).run (i.session env)
  ⟨result.value.1.exitCode, result.value.2.output.taken, env.shown 0 result.entries⟩

/-! ### The program -/

/-- The run of a request, given how the source of a command is read. -/
def Request.ending (r : Request) (env : Environment) (read : Origin → Except ReadError ByteArray) :
    Ending :=
  match r with
  | .help topic => ⟨0, topic.helpText, ""⟩
  | .version => ⟨0, programName ++ " " ++ programVersion ++ "\n", ""⟩
  | .run i => i.run env (read i.origin)

/-- The run of arguments that do not make a request. -/
def Fault.ending (f : Fault) : Ending := ⟨2, "", f.report⟩

/-- The source that arguments ask for. -/
def originOf? (arguments : List String) : Option Origin :=
  match parse arguments with
  | .ok (.run i) => some i.origin
  | _ => none

/-- The run of the program with some arguments, given how sources are read. -/
def runIn (env : Environment) (arguments : List String)
    (read : Origin → Except ReadError ByteArray) : Ending :=
  match parse arguments with
  | .ok r => r.ending env read
  | .error f => f.ending

/-- The same without a terminal, and without the log. -/
def run : List String → (Origin → Except ReadError ByteArray) → Ending := runIn .silent

end TlvSchema.CommandLine
