import TlvSchema.Field
import TlvSchema.Json.Record

/-!
# Entries of schemas

How members, fields and messages are written in a schema.

* `Member.ofJson`, `FieldEntry.ofJson` — members and fields
* `MessageEntry` — messages and indications
-/

namespace TlvSchema

open Json (Mismatch Part Record readText readOptional readList readTag)

/-! ### Members -/

/-- A member as a record, given how the members inside it are read. -/
def Member.record (inner : Json → Except Mismatch Member) : Record Member where
  name := "struct Member"
  parts :=
    [⟨"name", false, fun j m => (fun name => { m with name }) <$> readText j⟩,
     ⟨"format", true, fun j m => (fun format => { m with format }) <$> readText j⟩,
     ⟨"contents", false, fun j m => (fun contents => { m with contents }) <$> readList inner j⟩,
     ⟨"array-element", false, fun j m =>
       (fun element => { m with element }) <$> readOptional inner j⟩]
  blank := ⟨"", "", [], none⟩

/-- Read a member that has members inside it down to a depth. -/
def Member.ofJsonWithin : (depth : Nat) → Json → Except Mismatch Member
  | 0, j => (Member.record fun j => .error (.kind j "struct Member")).ofJson j
  | depth + 1, j => (Member.record (Member.ofJsonWithin depth)).ofJson j

/-- Read a member.  The members inside it cannot lie deeper than the value does. -/
def Member.ofJson (j : Json) : Except Mismatch Member := Member.ofJsonWithin j.depth j

/-! ### Fields -/

/-- A field as a record. -/
def FieldEntry.record : Record FieldEntry where
  name := "struct RawField"
  parts :=
    [⟨"name", false, fun j f => (fun name => { f with name }) <$> readText j⟩,
     ⟨"id", false, fun j f => (fun tag => { f with tag }) <$> readOptional readTag j⟩,
     ⟨"format", false, fun j f => (fun format => { f with format }) <$> readOptional readText j⟩,
     ⟨"common-ref", false, fun j f =>
       (fun reference => { f with reference }) <$> readOptional readText j⟩,
     ⟨"prerequisites", false, fun j f =>
       (fun prerequisite => { f with prerequisite }) <$> readOptional readText j⟩,
     ⟨"contents", false, fun j f =>
       (fun contents => { f with contents }) <$> readList Member.ofJson j⟩,
     ⟨"array-element", false, fun j f =>
       (fun element => { f with element }) <$> readOptional Member.ofJson j⟩]
  blank := ⟨"", none, none, none, none, [], none⟩

/-- Read a field. -/
def FieldEntry.ofJson (j : Json) : Except Mismatch FieldEntry := FieldEntry.record.ofJson j

/-! ### Messages -/

/-- A message or an indication as an author writes it. -/
structure MessageEntry where
  /-- The name. -/
  name : String
  /-- The type, `Message` or `Indication`. -/
  type : String
  /-- The service that the message belongs to. -/
  service : Option String
  /-- The fields that go in. -/
  input : Option (List FieldEntry)
  /-- The fields that come out. -/
  output : Option (List FieldEntry)

namespace MessageEntry

/-- A message as a record. -/
def record : Record MessageEntry where
  name := "struct MessageEntry"
  parts :=
    [⟨"name", true, fun j m => (fun name => { m with name }) <$> readText j⟩,
     ⟨"type", true, fun j m => (fun type => { m with type }) <$> readText j⟩,
     ⟨"service", false, fun j m =>
       (fun service => { m with service }) <$> readOptional readText j⟩,
     ⟨"input", false, fun j m =>
       (fun input => { m with input }) <$> readOptional (readList FieldEntry.ofJson) j⟩,
     ⟨"output", false, fun j m =>
       (fun output => { m with output }) <$> readOptional (readList FieldEntry.ofJson) j⟩]
  blank := ⟨"", "", none, none, none⟩

/-- Read a message. -/
def ofJson (j : Json) : Except Mismatch MessageEntry := record.ofJson j

/-- The name of the message with its type and service, such as `Message CTL Get Version`. -/
def fullName (m : MessageEntry) : String :=
  match m.service with
  | some service => m.type ++ " " ++ service ++ " " ++ m.name
  | none => m.type ++ " " ++ m.name

end MessageEntry

end TlvSchema
