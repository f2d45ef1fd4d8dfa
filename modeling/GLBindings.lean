import GLBindings.Main
import GLBindings.Proofs.Binding.Assignment
import GLBindings.Proofs.Binding.Insertion
import GLBindings.Proofs.Binding.Intersection
import GLBindings.Proofs.Binding.Lowering
import GLBindings.Proofs.Binding.Renaming
import GLBindings.Proofs.Definitions.Comments
import GLBindings.Proofs.Options.Json
import GLBindings.Proofs.Output.Faults
import GLBindings.Proofs.Output.Formats
import GLBindings.Proofs.Registry.Declarations
import GLBindings.Proofs.Registry.Grammar
import GLBindings.Proofs.Requirements.Extension
import GLBindings.Proofs.Requirements.Merging
import GLBindings.Proofs.Requirements.Targets
import GLBindings.Proofs.Requirements.Variation
import GLBindings.Proofs.Run.Ending
import GLBindings.Proofs.Symbol.Humps
import GLBindings.Proofs.Symbol.Prefix
