import TlvSchema.Json.Error
import TlvSchema.WireTag

/-!
# Reading records

A record is read from an object, whose entries are taken in the order of their keys, or from an array
that lists the values of its parts in the order in which the record has them.  Keys that the record
does not have are passed over.

* `Json.Part`, `Json.Record` — the parts of a record
* `Json.Record.ofJson` — reading a record
* `Json.readText`, `Json.readOptional`, `Json.readList`, `Json.readTag` — reading parts
-/

namespace TlvSchema.Json

/-! ### Parts -/

/-- Read a text. -/
def readText : Json → Except Mismatch String
  | .string text => .ok text
  | j => .error (.kind j "a string")

/-- Read something that may be null instead. -/
def readOptional {α : Type} (read : Json → Except Mismatch α) : Json → Except Mismatch (Option α)
  | .null => .ok none
  | j => some <$> read j

/-- Read a list. -/
def readList {α : Type} (read : Json → Except Mismatch α) : Json → Except Mismatch (List α)
  | .array items => items.mapM read
  | j => .error (.kind j "a sequence")

/-- Read a wire tag from a number or a text. -/
def readTag : Json → Except Mismatch WireTag
  | .integer n => match WireTag.ofNat? n.toNat with
    | some tag => if 0 ≤ n then .ok tag else .error .notATag
    | none => .error .notATag
  | .string text => (WireTag.read text).mapError fun e => .invalidTag e.text
  | _ => .error .notATag

/-! ### Records -/

/-- A part of a record of type `σ`. -/
structure Part (σ : Type) where
  /-- The key of the part. -/
  key : String
  /-- The record must have the part. -/
  required : Bool
  /-- Read the part and put it into the record. -/
  read : Json → σ → Except Mismatch σ

/-- A kind of record. -/
structure Record (σ : Type) where
  /-- What messages call it. -/
  name : String
  /-- The parts in order. -/
  parts : List (Part σ)
  /-- The record without its parts. -/
  blank : σ

namespace Record

variable {σ : Type} (r : Record σ)

/-- Read one entry of an object into a record. -/
def readEntry (record : σ) (entry : String × Json) : Except Mismatch σ :=
  match r.parts.find? (·.key = entry.1) with
  | some part => part.read entry.2 record
  | none => .ok record

/-- Read a record from the entries of an object. -/
def ofEntries (entries : List (String × Json)) : Except Mismatch σ := do
  let record ← entries.foldlM r.readEntry r.blank
  match r.parts.find? fun part => part.required && !entries.any (·.1 = part.key) with
  | some part => .error (.missing part.key)
  | none => pure record

/-- Read a record from the values of its parts. -/
def ofItems (items : List Json) : Except Mismatch σ := do
  let record ← (r.parts.zip items).foldlM (fun record p => p.1.read p.2 record) r.blank
  match (r.parts.zipIdx.drop items.length).find? (·.1.required) with
  | some (_, index) => .error (.tooShort index r.name r.parts.length)
  | none =>
    if r.parts.length < items.length then .error (.tooLong items.length) else pure record

/-- Read a record. -/
def ofJson : Json → Except Mismatch σ
  | .object entries => r.ofEntries entries
  | .array items => r.ofItems items
  | j => .error (.kind j r.name)

end Record

end TlvSchema.Json
