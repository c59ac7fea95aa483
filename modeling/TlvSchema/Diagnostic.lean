/-!
# Diagnostics

Reports for the author of a schema.

* `Diagnostic` — what is wrong, notes, and perhaps a label at a place of a source
* `Source` — a text with its name
-/

namespace TlvSchema

/-- A text that was loaded under a name. -/
structure Source where
  /-- The name, usually a path. -/
  name : String
  /-- The text. -/
  text : String
deriving DecidableEq, Repr, Inhabited

/-- How bad it is. -/
inductive Severity where
  /-- There is something that may help. -/
  | help
  /-- There is something to know. -/
  | note
  /-- The schema is probably at fault. -/
  | warning
  /-- The schema is at fault. -/
  | error
  /-- The program is at fault. -/
  | bug
deriving DecidableEq, Repr

namespace Severity

/-- The word for the severity. -/
def text : Severity → String
  | .help => "help"
  | .note => "note"
  | .warning => "warning"
  | .error => "error"
  | .bug => "bug"

/-- The place of the severity among all, the least one first. -/
def rank : Severity → Nat
  | .help => 0
  | .note => 1
  | .warning => 2
  | .error => 3
  | .bug => 4

end Severity

/-- A remark at a place of a source. -/
structure Label where
  /-- The source. -/
  source : Source
  /-- The offset of the place in bytes. -/
  offset : Nat
  /-- The remark. -/
  message : String
deriving DecidableEq, Repr

/-- A report for the author of a schema. -/
structure Diagnostic where
  /-- How bad it is. -/
  severity : Severity
  /-- What is wrong. -/
  message : String
  /-- What else there is to know. -/
  notes : List String
  /-- The place. -/
  label : Option Label
deriving DecidableEq, Repr

/-- The report is about an error, or about something worse. -/
def Diagnostic.isError (d : Diagnostic) : Bool := Severity.error.rank ≤ d.severity.rank

end TlvSchema
