import TlvSchema.DeclarationOrder
import TlvSchema.Model
import TlvSchema.Resolution

/-!
# Compilation

A container is compiled by resolving its entries, putting the fields in order and building the model.
The first defect ends the compilation; what has been logged by then stays logged.
-/

namespace TlvSchema

/-- The fields of a container in order, if it has a list of fields. -/
def ContainerSpec.orderedFields (spec : ContainerSpec) (table : CommonTable) :
    ExceptT SchemaError Logged (Option (List Field)) := do
  match spec.fields with
  | none => pure none
  | some entries =>
    let fields ← ExceptT.mk (pure (resolveFields spec.fullName entries table))
    Logged.event (.resolved fields.length)
    some <$> orderFields fields

/-- The model of a container, or its first defect. -/
def ContainerSpec.compile (spec : ContainerSpec) (table : CommonTable) :
    ExceptT SchemaError Logged Model := do
  let fields ← spec.orderedFields table
  let model ← ExceptT.mk (pure (Model.build spec.fullName spec.direction fields))
  Logged.event (.builtModel model.fields.length model.operations.length)
  pure model

end TlvSchema
