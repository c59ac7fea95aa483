import TlvSchema.Compilation
import TlvSchema.Diagnostic.Render
import TlvSchema.FieldListing
import TlvSchema.Schema
import TlvSchema.Summary

/-!
# Sessions

In a session sources are loaded and commands are run on them.  Errors are reported as diagnostics, and
once there has been one, commands fail and write their output only if errors are allowed.

* `Outlet`, `Limit` — where texts are written, how much of them, and whether they are passed on
* `Session` — the state of a session
* `Session.Step`, `Session.Reply` — what can be asked of a session, and the replies
* `Session.step`, `Session.run` — one step and several steps
* `Session.Record` — what can be seen of a step
-/

namespace TlvSchema

/-! ### Outlets -/

/-- How much is taken in a step, and why no more. -/
structure Limit where
  /-- The greatest number of bytes that are taken. -/
  bytes : Nat
  /-- Why further bytes are refused. -/
  reason : String
deriving DecidableEq, Repr

/-- Where texts are written in a step; there may be a limit on them, and it may be blocked. -/
structure Outlet where
  /-- The limit. -/
  limit : Option Limit
  /-- Why nothing is passed on when the outlet is flushed, if it is blocked. -/
  blocked : Option String
  /-- What has been taken in the step. -/
  taken : String

namespace Outlet

/-- An outlet that takes everything and passes it on. -/
def unlimited : Outlet := ⟨none, none, ""⟩

variable (o : Outlet)

/-- The outlet at the start of a step. -/
def restart : Outlet := { o with taken := "" }

/-- Why there is no room for a piece, if there is none. -/
def refusal? (piece : String) : Option String :=
  o.limit.bind fun limit =>
    if limit.bytes < o.taken.utf8ByteSize + piece.utf8ByteSize then some limit.reason else none

/-- Pass on what has been taken; why that fails, if it does. -/
def flush : Option String := o.blocked

/-- The pieces up to the first one that there is no room for, and why that one was refused.  If there is
room for all of them, the outlet is flushed, which may fail as well. -/
def accept (o : Outlet) : List String → List String × Option String
  | [] => ([], o.flush)
  | piece :: pieces => match o.refusal? piece with
    | some reason => ([], some reason)
    | none =>
      let later := accept { o with taken := o.taken ++ piece } pieces
      (piece :: later.1, later.2)

/-- Write pieces and flush the outlet, up to the first failure; the reason for that. -/
def write (pieces : List String) : Outlet × Option String :=
  let accepted := o.accept pieces
  ({ o with taken := o.taken ++ String.join accepted.1 }, accepted.2)

end Outlet

/-! ### Sessions -/

/-- Why a source could not be read. -/
inductive ReadError where
  /-- There is no such file. -/
  | notFound
  /-- A part of the path that should be a directory is none. -/
  | notDirectory
  /-- The file is a directory. -/
  | isDirectory
  /-- A part of the path is too long. -/
  | nameTooLong
  /-- The path has a null character, which ends a path. -/
  | nullInName
  /-- The bytes are not UTF-8. -/
  | notText
  /-- Another reason. -/
  | other (reason : String)
deriving DecidableEq, Repr

/-- The reason in words. -/
def ReadError.message : ReadError → String
  | .notFound => "No such file or directory (os error 2)"
  | .notDirectory => "Not a directory (os error 20)"
  | .isDirectory => "Is a directory (os error 21)"
  | .nameTooLong => "File name too long (os error 36)"
  | .nullInName => "file name contained an unexpected NUL byte"
  | .notText => "stream did not contain valid UTF-8"
  | .other reason => reason

/-- How a command ends. -/
inductive Status where
  /-- There was no error. -/
  | success
  /-- There was an error. -/
  | failure
deriving DecidableEq, Repr

/-- The exit code that tells how a command ended. -/
def Status.exitCode : Status → Nat
  | .success => 0
  | .failure => 1

/-- The state of a session. -/
structure Session where
  /-- The sources that have been loaded. -/
  sources : List Source
  /-- Output is written in spite of errors. -/
  allowErrors : Bool
  /-- The width of the output. -/
  width : Option Nat
  /-- There has been an error. -/
  seenErrors : Bool
  /-- Where output goes. -/
  output : Outlet
  /-- Where diagnostics go. -/
  diagnostics : Outlet

/-- A part of a step of a session. -/
abbrev SessionM := StateT Session Logged

namespace Session

/-- The state at the start. -/
def empty : Session := ⟨[], false, none, false, .unlimited, .unlimited⟩

/-! ### Diagnostics -/

/-- Log an event. -/
def log (e : Event) : SessionM Unit := StateT.lift (Logged.event e)

/-- Report a diagnostic.  If it is about an error, there has been an error from now on, even if the
diagnostic could not be written. -/
def report (d : Diagnostic) : SessionM Unit := do
  let s ← get
  let accepted := s.diagnostics.accept d.pieces
  StateT.lift (Logged.written (String.join accepted.1))
  accepted.2.forM fun reason => log (.diagnosticNotWritten reason)
  set { s with
    diagnostics := (s.diagnostics.write d.pieces).1
    seenErrors := s.seenErrors || d.isError }

/-- The diagnostic for a source that could not be read. -/
def readDiagnostic (name : String) (e : ReadError) : Diagnostic :=
  ⟨.error, "couldn't read `" ++ name ++ "`: " ++ e.message, [], none⟩

/-- The diagnostic for a source that does not exist. -/
def missingSourceDiagnostic : Diagnostic := ⟨.bug, "unexpected error 'file missing'", [], none⟩

/-- What the label of a fault says. -/
def faultRemark : Json.Category → String
  | .syntactic => "invalid JSON"
  | .data => "unexpected schema entry"
  | .ended => "unexpected end of file"

/-- The offset that a position stands for; the end of the line if the line is shorter. -/
def offsetOf? (text : String) (p : Text.Position) : Option Nat :=
  ((Text.lines text.toList)[p.line - 1]?).map fun l => min (l.start + (p.column - 1)) l.stop

/-- The diagnostic for a source that is not the JSON of a schema. -/
def jsonDiagnostic (source : Source) (e : Json.Error) : Diagnostic :=
  let offset := e.position.bind (offsetOf? source.text)
  ⟨.error, "failed to load schema: " ++ e.message, [],
    offset.map fun offset => ⟨source, offset, faultRemark e.fault.category⟩⟩

/-! ### Loading -/

/-- Add a source; its number. -/
def addSource (name text : String) : SessionM Nat := do
  let s ← get
  set { s with sources := s.sources ++ [(⟨name, text⟩ : Source)] }
  pure s.sources.length

/-- The text that the bytes of a source stand for. -/
def decodeText (content : Except ReadError ByteArray) : Except ReadError String := do
  let bytes ← content
  match String.fromUTF8? bytes with
  | some text => pure text
  | none => .error .notText

/-- Add a source that was read; its number, if it could be read. -/
def readSource (name : String) (content : Except ReadError ByteArray) : SessionM (Option Nat) := do
  match decodeText content with
  | .ok text => some <$> addSource name text
  | .error e =>
    report (readDiagnostic name e)
    pure none

/-- The schema of a source; what is wrong with it is reported. -/
def loadSchema (number : Nat) : SessionM (Option Schema) := do
  match (← get).sources[number]? with
  | none =>
    report missingSourceDiagnostic
    pure none
  | some source =>
    match ← (Schema.load source.text).run with
    | .ok schema =>
      log (.loadedSchema schema.containers.length schema.common.size)
      pure (some schema)
    | .error (.json e) =>
      report (jsonDiagnostic source e)
      pure none
    | .error (.schema e) =>
      report e.diagnostic
      pure none

/-! ### Commands -/

/-- Write a document unless there have been errors and they are not allowed. -/
def finish (d : Doc) : SessionM Status := do
  let s ← get
  if s.seenErrors && !s.allowErrors then pure .failure
  else
    let written := s.output.write (d.pieces s.width ++ ["\n"])
    set { s with output := written.1 }
    match written.2 with
    | some reason =>
      log (.outputNotWritten reason)
      pure .failure
    | none => pure (if s.seenErrors then .failure else .success)

/-- The model of a container, unless it has a defect, which is reported. -/
def compileContainer (table : CommonTable) (spec : ContainerSpec) : SessionM (Option Model) := do
  match ← (spec.compile table).run with
  | .ok model => pure (some model)
  | .error e =>
    report e.diagnostic
    pure none

/-- The listing of a container, unless it has a defect, which is reported. -/
def listContainer (table : CommonTable) (spec : ContainerSpec) : SessionM (Option Doc) := do
  match spec.fields with
  | none => pure (some (FieldListing.emptyContainer spec.fullName))
  | some entries => match resolveFields spec.fullName entries table with
    | .ok fields =>
      let ordered ← orderFields fields
      pure (some (FieldListing.container spec.fullName ordered))
    | .error e =>
      report e.diagnostic
      pure none

/-- Do something for every container, and keep the results that there are. -/
def forContainers {α : Type} (f : ContainerSpec → SessionM (Option α)) :
    List ContainerSpec → SessionM (List α)
  | [] => pure []
  | spec :: specs => do
    let result ← f spec
    let results ← forContainers f specs
    pure (result.toList ++ results)

/-- Run a command on the schema of a source. -/
def command {α : Type} (f : CommonTable → ContainerSpec → SessionM (Option α))
    (document : List α → Doc) (number : Nat) : SessionM Status := do
  match ← loadSchema number with
  | none => pure .failure
  | some schema =>
    let results ← forContainers (f schema.common) schema.containers
    finish (document results)

/-- Write a summary of the models of all containers of a source. -/
def compile : Nat → SessionM Status := command compileContainer Summary.document

/-- Write the fields of all containers of a source in order. -/
def fields : Nat → SessionM Status := command listContainer FieldListing.document

/-! ### Steps -/

/-- What can be asked of a session. -/
inductive Step where
  /-- Add a source. -/
  | add (name text : String)
  /-- Add a source that was read, or could not be read. -/
  | read (name : String) (content : Except ReadError ByteArray)
  /-- Allow errors, or do not. -/
  | allowErrors (allow : Bool)
  /-- Set the width of the output. -/
  | width (columns : Option Nat)
  /-- Summarize the models of a source. -/
  | compile (number : Nat)
  /-- List the fields of a source. -/
  | fields (number : Nat)
  /-- Limit the output, or lift the limit. -/
  | limitOutput (limit : Option Limit)
  /-- Limit the diagnostics, or lift the limit. -/
  | limitDiagnostics (limit : Option Limit)
  /-- Let flushing the output fail, or succeed again. -/
  | blockOutput (reason : Option String)
  /-- Let flushing the diagnostics fail, or succeed again. -/
  | blockDiagnostics (reason : Option String)

/-- What a session replies. -/
inductive Reply where
  /-- It is done. -/
  | done
  /-- The number of a source that was loaded, if it was. -/
  | loaded (number : Option Nat)
  /-- How a command ended. -/
  | ended (status : Status)

/-- Do what a step asks for. -/
def perform : Step → SessionM Reply
  | .add name text => do return .loaded (some (← addSource name text))
  | .read name content => do return .loaded (← readSource name content)
  | .allowErrors allow => do
    modify fun s => { s with allowErrors := allow }
    return .done
  | .width columns => do
    modify fun s => { s with width := columns }
    return .done
  | .compile number => do return .ended (← compile number)
  | .fields number => do return .ended (← fields number)
  | .limitOutput limit => do
    modify fun s => { s with output := { s.output with limit } }
    return .done
  | .limitDiagnostics limit => do
    modify fun s => { s with diagnostics := { s.diagnostics with limit } }
    return .done
  | .blockOutput reason => do
    modify fun s => { s with output := { s.output with blocked := reason } }
    return .done
  | .blockDiagnostics reason => do
    modify fun s => { s with diagnostics := { s.diagnostics with blocked := reason } }
    return .done

/-- One step.  What it writes is in the outlets of the session after it. -/
def step (s : Session) (step : Step) : Logged (Reply × Session) :=
  (perform step).run { s with output := s.output.restart, diagnostics := s.diagnostics.restart }

/-- What can be seen of a step. -/
structure Record where
  /-- The reply. -/
  reply : Reply
  /-- What was left behind on the way, the first entry first. -/
  entries : List Entry
  /-- Where output went, with what was written in the step. -/
  output : Outlet
  /-- Where diagnostics went, with what was written in the step. -/
  diagnostics : Outlet

/-- The events of a step, the first one first. -/
def Record.events (r : Record) : List Event := r.entries.filterMap Entry.event?

/-- Do several steps one after the other: a record of each step, and the session in the end. -/
def run (s : Session) : List Step → List Record × Session
  | [] => ([], s)
  | step :: steps =>
    let result := s.step step
    let s' := result.value.2
    let (records, last) := run s' steps
    (⟨result.value.1, result.entries, s'.output, s'.diagnostics⟩ :: records, last)

end Session

end TlvSchema
