import TextChain.Description
import TextChain.Main
import TextChain.Proofs.Document.Calls
import TextChain.Proofs.Document.Kept
import TextChain.Proofs.Registry.Invariant
import TextChain.Proofs.Registry.Uncached
import TextChain.Proofs.Chain
import TextChain.Proofs.Pipeline.Boundary
import TextChain.Proofs.Document.Abort
import TextChain.Proofs.Markerless
import TextChain.Proofs.Registry.Recorded
import TextChain.Proofs.Registry.Nesting
import TextChain.Proofs.Registry.Frame
import TextChain.Proofs.Registry.Refusal
import TextChain.Proofs.Registry.Moments
import TextChain.Proofs.Registry.Orphans
import TextChain.Proofs.Document.Append
import TextChain.Proofs.Document.Coverage
import TextChain.Proofs.Engine.Mappings
import TextChain.Proofs.Engine.Extensions
import TextChain.Proofs.Chain.Faults
import TextChain.Proofs.Template.Render
import TextChain.Proofs.Pipeline.Composition
import TextChain.Proofs.Pipeline.Modes
import TextChain.Proofs.Registry.Lazy
import TextChain.Proofs.Registry.Removal
import TextChain.Proofs.Registry.Static
import TextChain.Proofs.Chain.Lookups
import TextChain.Proofs.Engine.Tables
import TextChain.Proofs.Document.Unmappable
import TextChain.Proofs.Document.LineEndings
import TextChain.Proofs.Document.Padding
import TextChain.Proofs.Pipeline.Naming
