import TlvSchema.DeclarationOrder
import TlvSchema.Layout

/-!
# Listings of fields

A listing shows the fields of containers in declaration order, with their wire tags and prerequisites.
-/

namespace TlvSchema.FieldListing

/-- The columns by which fields are indented. -/
def indentation : Nat := 4

/-- The line for a field. -/
def fieldLine (f : Field) : String :=
  f.name ++ " = " ++ f.tag.display ++ (f.prerequisite.elim "" (" after " ++ ·))

/-- A container with its fields. -/
def container (fullName : String) (fields : List Field) : Doc :=
  .text (fullName ++ ":") ++
    .nest indentation (.hardLine ++ .separate .hardLine (fields.map (.text <| fieldLine ·)))

/-- A container without a list of fields. -/
def emptyContainer (fullName : String) : Doc := .text (fullName ++ ": no fields")

/-- Several containers. -/
def document (containers : List Doc) : Doc := .separate .hardLine containers

end TlvSchema.FieldListing
