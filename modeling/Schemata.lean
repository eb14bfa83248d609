import Schemata.Main
import Schemata.Proofs.CommandLine.Verdicts
import Schemata.Proofs.Compiler.Chains
import Schemata.Proofs.Compiler.Comparisons
import Schemata.Proofs.Compiler.Counts
import Schemata.Proofs.Compiler.Diagnostics
import Schemata.Proofs.Compiler.FalsyArguments
import Schemata.Proofs.Compiler.Names
import Schemata.Proofs.Compiler.Order
import Schemata.Proofs.Compiler.ReferenceLists
import Schemata.Proofs.Compiler.ShapeContinuation
import Schemata.Proofs.Compiler.Spellings
import Schemata.Proofs.Compiler.Unmarked
import Schemata.Proofs.Library.Frames
import Schemata.Proofs.Node.Encoding
import Schemata.Proofs.Node.Grammar
import Schemata.Proofs.Reference
import Schemata.Proofs.Schema.Acceptance
import Schemata.Proofs.Schema.History
import Schemata.Proofs.Schema.Labels
import Schemata.Proofs.Schema.Locality
import Schemata.Proofs.Schema.Messages
import Schemata.Proofs.Schema.Narrowing
import Schemata.Proofs.Schema.WrittenNumbers
import Schemata.Proofs.Settings.Precedence
import Schemata.Proofs.Violation.Paths
