import TokenConformance.Json.Token
import TokenConformance.Collection.OrderedMap
import TokenConformance.Collection.OrderedSet
import TokenConformance.Text.Blank
import TokenConformance.Text.Utf8
import TokenConformance.Json.Reader
import TokenConformance.Json.Record
import TokenConformance.Json.Writer
import TokenConformance.Contract.Order
import TokenConformance.Failure
import TokenConformance.Solidity.CanonicalType
import TokenConformance.Solidity.CompilerOutput
import TokenConformance.Body.Effect
import TokenConformance.Body.Facts
import TokenConformance.Hierarchy.Callable
import TokenConformance.Hierarchy.Flatten
import TokenConformance.Settings
import TokenConformance.Standard.Checklist
import TokenConformance.Standard.Erc20
import TokenConformance.Standard.Erc721
import TokenConformance.Standard.Name
import TokenConformance.Digest.Sha256
import TokenConformance.Inspection
import TokenConformance.Report.Json
import TokenConformance.Report.Text
import TokenConformance.CommandLine.Arguments
import TokenConformance.CommandLine.Run
import TokenConformance.CommandLine.System
import TokenConformance.Sandbox.FileTree
import TokenConformance.Sandbox.World
import TokenConformance.Sandbox.Shell.Commands
import TokenConformance.Sandbox.Shell.Arithmetic
import TokenConformance.Sandbox.Shell.Pattern
import TokenConformance.Sandbox.Shell.Expansion
import TokenConformance.Sandbox.Shell.Printing
import TokenConformance.Sandbox.Shell.Condition
import TokenConformance.Sandbox.Shell.Tool.Basic
import TokenConformance.Sandbox.Shell.Builtins
import TokenConformance.Sandbox.Shell.Redirecting
import TokenConformance.Sandbox.Shell.Scheduling
import TokenConformance.Sandbox.Text.Regex.Reader
import TokenConformance.Proofs.Hierarchy.SuperCall
import TokenConformance.Proofs.Standard.SkippedRules
import TokenConformance.Proofs.Standard.Relevance
import TokenConformance.Proofs.Hierarchy.DeclarationOrder
import TokenConformance.Proofs.Hierarchy.ForwardCompatibility
import TokenConformance.Proofs.Hierarchy.LibraryPaths
import TokenConformance.Proofs.Hierarchy.Selection
import TokenConformance.Proofs.Inspection.OrderOfFailure
import TokenConformance.Proofs.Report.RoundTrip
import TokenConformance.Proofs.Body.GuardSite
import TokenConformance.Proofs.Body.Recording
import TokenConformance.Proofs.CommandLine.ExitStatus
import TokenConformance.Proofs.Body.QualifiedName
import TokenConformance.Proofs.Body.Insertion
import TokenConformance.Proofs.Body.TailBlock
import TokenConformance.Proofs.Body.CallOptions
import TokenConformance.Proofs.Body.NumberedName
import TokenConformance.Proofs.Solidity.ArraySuffix
import TokenConformance.Proofs.Solidity.CanonicalForm
import TokenConformance.Proofs.Body.CallEffect
import TokenConformance.Proofs.Hierarchy.CustomModifiers
import TokenConformance.Proofs.Standard.NearMiss
import TokenConformance.Proofs.Hierarchy.Malformed
import TokenConformance.Proofs.Solidity.Compilation
import TokenConformance.Proofs.Report.TextLines
import TokenConformance.Proofs.Body.Completion
import TokenConformance.Proofs.Hierarchy.Getter
import TokenConformance.Proofs.Hierarchy.LibraryBoundary
import TokenConformance.Proofs.Hierarchy.PathComponents
import TokenConformance.Proofs.Standard.Spelling
import TokenConformance.Proofs.Sandbox.Footprint
