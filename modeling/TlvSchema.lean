import TlvSchema.Main
import TlvSchema.Proofs.Accessors
import TlvSchema.Proofs.Agreement
import TlvSchema.Proofs.Collision
import TlvSchema.Proofs.Compilation
import TlvSchema.Proofs.Independence
import TlvSchema.Proofs.Interruption
import TlvSchema.Proofs.Loading
import TlvSchema.Proofs.Noninterference
import TlvSchema.Proofs.Population
import TlvSchema.Proofs.IdentifierSyntax
import TlvSchema.Proofs.Provenance
import TlvSchema.Proofs.SlotTypes
import TlvSchema.Proofs.Sharing
import TlvSchema.Proofs.CommandLine
import TlvSchema.Proofs.Disposal
import TlvSchema.Proofs.Ownership
import TlvSchema.Proofs.ResolutionDefect
import TlvSchema.Proofs.ModelDefect
import TlvSchema.Proofs.SummaryText
import TlvSchema.Proofs.Position
import TlvSchema.Proofs.Suggestion
import TlvSchema.Proofs.WireTag
import TlvSchema.Proofs.NormalSpelling
import TlvSchema.Proofs.Retyping
import TlvSchema.Proofs.Interchange
