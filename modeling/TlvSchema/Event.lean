import TlvSchema.Text.Quoted

/-!
# Events

What happens while a schema is worked on is logged as events, beside the results.  Reports for the author
of a schema are written in between, so what is left behind on the way is a list of both.

* `Event` — the events, by their cause
* `Event.level`, `Event.message`, `Event.attributes` — an event in words
* `Entry` — what is left behind on the way, an event or a text
* `Logged` — a result with the entries that led to it
-/

namespace TlvSchema

/-! ### Events -/

/-- What can be logged. -/
inductive Event where
  /-- A common definition of another type than a field is left out. -/
  | skippedDefinition (type : Option String)
  /-- A common definition is left out because another one has its reference. -/
  | duplicateDefinition (reference : String)
  /-- An indication has fields that go the wrong way. -/
  | ignoredInput (message : String)
  /-- An entry of the schema is neither a common definition nor a message. -/
  | skippedEntry (type : Option String)
  /-- A schema was read. -/
  | loadedSchema (containers definitions : Nat)
  /-- The common definitions of a container were looked up. -/
  | resolved (fields : Nat)
  /-- The prerequisite of a field has a prerequisite itself. -/
  | chain (field prerequisite transitive : String)
  /-- The model of a container was made. -/
  | builtModel (fields operations : Nat)
  /-- The last handle of a container was given back. -/
  | disposed (container : String) (released : Nat)
  /-- A report could not be written. -/
  | diagnosticNotWritten (reason : String)
  /-- The output of a command could not be written. -/
  | outputNotWritten (reason : String)
deriving DecidableEq, Repr

/-- How much an event matters. -/
inductive Level where
  /-- Of interest when looking for a mistake. -/
  | debug
  /-- Probably a mistake in the schema. -/
  | warn
  /-- Something failed. -/
  | error
deriving DecidableEq, Repr

namespace Level

/-- The name of the level. -/
def name : Level → String
  | .debug => "DEBUG"
  | .warn => "WARN"
  | .error => "ERROR"

/-- The place of the level among all, the least one first. -/
def rank : Level → Nat
  | .debug => 0
  | .warn => 1
  | .error => 2

end Level

namespace Event

/-- How much the event matters. -/
def level : Event → Level
  | .duplicateDefinition _ | .chain _ _ _ => .warn
  | .diagnosticNotWritten _ | .outputNotWritten _ => .error
  | _ => .debug

/-- The event matters at least as much as the level says. -/
def reaches (least : Level) (e : Event) : Bool := least.rank ≤ e.level.rank

/-- What happened. -/
def message : Event → String
  | .skippedDefinition _ => "skipping common definition that is not a TLV"
  | .duplicateDefinition _ => "ignoring duplicate common definition"
  | .ignoredInput _ => "ignoring input fields of an indication"
  | .skippedEntry _ => "skipping schema entry"
  | .loadedSchema _ _ => "loaded schema"
  | .resolved _ => "resolved common definitions"
  | .chain field prerequisite _ =>
    "prerequisite chains are not ordered, `" ++ prerequisite ++ "` may follow `" ++ field ++ "`"
  | .builtModel _ _ => "built container model"
  | .disposed _ _ => "disposed container"
  | .diagnosticNotWritten _ => "failed to write diagnostic"
  | .outputNotWritten _ => "failed to write output"

/-- A text that may be missing, as a value of an attribute. -/
def optionalText : Option String → String
  | none => "None"
  | some text => "Some(" ++ Text.quote text ++ ")"

/-- The names and values that go with the message. -/
def attributes : Event → List (String × String)
  | .skippedDefinition type => [("kind", optionalText type)]
  | .duplicateDefinition reference => [("common_ref", reference)]
  | .ignoredInput message => [("prefix", message)]
  | .skippedEntry type => [("kind", optionalText type)]
  | .loadedSchema containers definitions =>
    [("containers", toString containers), ("common_definitions", toString definitions)]
  | .resolved fields => [("fields", toString fields)]
  | .chain field prerequisite transitive =>
    [("field", field), ("prerequisite", prerequisite), ("transitive", transitive)]
  | .builtModel fields operations =>
    [("fields", toString fields), ("operations", toString operations)]
  | .disposed container released => [("container", container), ("released", toString released)]
  | .diagnosticNotWritten reason => [("error", reason)]
  | .outputNotWritten reason => [("error", reason)]

end Event

/-! ### Logged results -/

/-- What is left behind on the way to a result. -/
inductive Entry where
  /-- Something was logged. -/
  | event (e : Event)
  /-- A text was written for the author of the schema. -/
  | written (text : String)
deriving DecidableEq, Repr

namespace Entry

/-- What was logged, if the entry says that. -/
def event? : Entry → Option Event
  | .event e => some e
  | .written _ => none

/-- The text that was written, if the entry says that. -/
def text? : Entry → Option String
  | .event _ => none
  | .written text => some text

end Entry

/-- A result with the entries that led to it. -/
structure Logged (α : Type) where
  /-- The result. -/
  value : α
  /-- The entries, the first one first. -/
  entries : List Entry
deriving Repr

namespace Logged

variable {α β : Type}

/-- The events, the first one first. -/
def events (x : Logged α) : List Event := x.entries.filterMap Entry.event?

/-- A result without entries. -/
protected def pure (a : α) : Logged α := ⟨a, []⟩

/-- The entries of the second step follow those of the first one. -/
protected def bind (x : Logged α) (f : α → Logged β) : Logged β :=
  ⟨(f x.value).value, x.entries ++ (f x.value).entries⟩

instance : Monad Logged where
  pure := Logged.pure
  bind := Logged.bind

/-- Log one event. -/
def event (e : Event) : Logged Unit := ⟨(), [.event e]⟩

/-- Log several events. -/
def all (es : List Event) : Logged Unit := ⟨(), es.map .event⟩

/-- Note that a text was written. -/
def written (text : String) : Logged Unit := ⟨(), [.written text]⟩

@[simp] theorem value_pure (a : α) : (pure a : Logged α).value = a := rfl

@[simp] theorem entries_pure (a : α) : (pure a : Logged α).entries = [] := rfl

@[simp] theorem events_pure (a : α) : (pure a : Logged α).events = [] := rfl

@[simp] theorem value_bind (x : Logged α) (f : α → Logged β) :
    (x >>= f).value = (f x.value).value := rfl

@[simp] theorem entries_bind (x : Logged α) (f : α → Logged β) :
    (x >>= f).entries = x.entries ++ (f x.value).entries := rfl

@[simp] theorem events_bind (x : Logged α) (f : α → Logged β) :
    (x >>= f).events = x.events ++ (f x.value).events :=
  List.filterMap_append

end Logged

end TlvSchema
