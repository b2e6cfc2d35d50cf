import RtlFlow.Archive
import RtlFlow.Build.Operation
import RtlFlow.Build.Options
import RtlFlow.Build.Outcome
import RtlFlow.Build.Registry
import RtlFlow.Cache.Asking
import RtlFlow.Cache.Basic
import RtlFlow.Cache.Document
import RtlFlow.Cache.Filter
import RtlFlow.Cache.Store
import RtlFlow.Catalog.Basic
import RtlFlow.Catalog.FileKind
import RtlFlow.Catalog.Generics
import RtlFlow.Catalog.Holdings
import RtlFlow.Catalog.Source
import RtlFlow.Classify.Classifier
import RtlFlow.Classify.Severity
import RtlFlow.Digest.Sha256
import RtlFlow.Duration
import RtlFlow.Error
import RtlFlow.Host.Copy
import RtlFlow.Host.FileTree
import RtlFlow.Host.Programs
import RtlFlow.Json.Basic
import RtlFlow.Json.Reading
import RtlFlow.Json.Writing
import RtlFlow.LogLevel
import RtlFlow.Number.Binary64
import RtlFlow.Number.Reading
import RtlFlow.Number.Shortest
import RtlFlow.Path
import RtlFlow.Pattern.Automaton
import RtlFlow.Pattern.Basic
import RtlFlow.Pattern.ByteRange
import RtlFlow.Pattern.Error
import RtlFlow.Pattern.Matching
import RtlFlow.Pattern.Property
import RtlFlow.Pattern.Reading
import RtlFlow.Plan.Basic
import RtlFlow.Plan.Counting
import RtlFlow.Plan.DependencyGraph
import RtlFlow.Plan.Resolve
import RtlFlow.Proofs.Archive.Artifacts
import RtlFlow.Proofs.Archive.Bundles
import RtlFlow.Proofs.Archive.Creation
import RtlFlow.Proofs.Archive.FreeNames
import RtlFlow.Proofs.Archive.Names
import RtlFlow.Proofs.Build.Attempts
import RtlFlow.Proofs.Build.CacheFrame
import RtlFlow.Proofs.Build.Calls
import RtlFlow.Proofs.Build.Cancellation
import RtlFlow.Proofs.Build.CapturedOutput
import RtlFlow.Proofs.Build.CompileLog
import RtlFlow.Proofs.Build.CompiledEntries
import RtlFlow.Proofs.Build.Credit
import RtlFlow.Proofs.Build.DeletedLibrary
import RtlFlow.Proofs.Build.Durability
import RtlFlow.Proofs.Build.ExecutionOrder
import RtlFlow.Proofs.Build.History
import RtlFlow.Proofs.Build.Ledger
import RtlFlow.Proofs.Build.Observing
import RtlFlow.Proofs.Build.Outcomes
import RtlFlow.Proofs.Build.Overrides
import RtlFlow.Proofs.Build.Phases
import RtlFlow.Proofs.Build.RepeatedSynthesis
import RtlFlow.Proofs.Build.Resume
import RtlFlow.Proofs.Build.Steps
import RtlFlow.Proofs.Build.StructuralErrors
import RtlFlow.Proofs.Build.Verdicts
import RtlFlow.Proofs.Build.WorkDirectory
import RtlFlow.Proofs.Cache.Asking
import RtlFlow.Proofs.Cache.Characterization
import RtlFlow.Proofs.Cache.Decisions
import RtlFlow.Proofs.Cache.Document
import RtlFlow.Proofs.Cache.Durability
import RtlFlow.Proofs.Cache.Entries
import RtlFlow.Proofs.Cache.Generations
import RtlFlow.Proofs.Cache.Interruption
import RtlFlow.Proofs.Cache.Isolation
import RtlFlow.Proofs.Cache.Readings
import RtlFlow.Proofs.Cache.Trust
import RtlFlow.Proofs.Catalog.Generics
import RtlFlow.Proofs.Catalog.Holdings
import RtlFlow.Proofs.Catalog.Registration
import RtlFlow.Proofs.Catalog.Runs
import RtlFlow.Proofs.Classification
import RtlFlow.Proofs.Computation
import RtlFlow.Proofs.Host.Additions
import RtlFlow.Proofs.Host.CopiedTrees
import RtlFlow.Proofs.Host.Copying
import RtlFlow.Proofs.Host.Files
import RtlFlow.Proofs.Host.Fitting
import RtlFlow.Proofs.Host.SideFiles
import RtlFlow.Proofs.Host.Ways
import RtlFlow.Proofs.Host.Writes
import RtlFlow.Proofs.Json.RoundTrip
import RtlFlow.Proofs.PathChildren
import RtlFlow.Proofs.PathIdentity
import RtlFlow.Proofs.PathNeighbours
import RtlFlow.Proofs.PathResolution
import RtlFlow.Proofs.Plan.CompileOrder
import RtlFlow.Proofs.Plan.Counting
import RtlFlow.Proofs.Plan.GraphBuilding
import RtlFlow.Proofs.Plan.Growth
import RtlFlow.Proofs.Plan.Hints
import RtlFlow.Proofs.Plan.LocalOrder
import RtlFlow.Proofs.Plan.Rings
import RtlFlow.Proofs.Plan.StableOrder
import RtlFlow.Proofs.Plan.TopologicalOrder
import RtlFlow.Proofs.Table
import RtlFlow.Proofs.Targets
import RtlFlow.Proofs.Text.Lines
import RtlFlow.Proofs.Text.LowerCase
import RtlFlow.Proofs.Text.Replacement
import RtlFlow.Proofs.Text.Trimming
import RtlFlow.Proofs.Text.Utf8
import RtlFlow.Proofs.Tool.AllOrNothing
import RtlFlow.Proofs.Tool.Capture
import RtlFlow.Proofs.Tool.Constraints
import RtlFlow.Proofs.Tool.Insertion
import RtlFlow.Proofs.Tool.Invocations
import RtlFlow.Proofs.Tool.Nesting
import RtlFlow.Proofs.Tool.Scripts
import RtlFlow.Proofs.Tool.Sequencing
import RtlFlow.Proofs.Tool.Starts
import RtlFlow.Proofs.Tool.Substitution
import RtlFlow.Proofs.Tool.Waiting
import RtlFlow.Proofs.Vhdl.CommentBytes
import RtlFlow.Proofs.Vhdl.Comments
import RtlFlow.Proofs.Vhdl.Declarations
import RtlFlow.Proofs.Vhdl.Instantiations
import RtlFlow.Proofs.Vhdl.Layout
import RtlFlow.Proofs.Vhdl.Parts
import RtlFlow.Proofs.Vhdl.Readers
import RtlFlow.Proofs.Vhdl.References
import RtlFlow.Proofs.Vhdl.Search
import RtlFlow.Proofs.Vhdl.Tokens
import RtlFlow.Proofs.Vhdl.UseClauses
import RtlFlow.Report.Basic
import RtlFlow.Report.Kind
import RtlFlow.Settings.Basic
import RtlFlow.Settings.Document
import RtlFlow.Settings.Reading
import RtlFlow.Shell.Arithmetic
import RtlFlow.Shell.BuiltIn
import RtlFlow.Shell.Expansion
import RtlFlow.Shell.Image
import RtlFlow.Shell.Launching
import RtlFlow.Shell.Machine
import RtlFlow.Shell.Malformed
import RtlFlow.Shell.Reading
import RtlFlow.Shell.Redirection
import RtlFlow.Shell.Running
import RtlFlow.Shell.Starting
import RtlFlow.Shell.Stream
import RtlFlow.Shell.Syntax
import RtlFlow.Shell.Token
import RtlFlow.Shell.Utility.Basic
import RtlFlow.Shell.Utility.Files
import RtlFlow.Shell.Utility.Filters
import RtlFlow.Shell.Utility.Printing
import RtlFlow.Table
import RtlFlow.Target
import RtlFlow.Text.Blank
import RtlFlow.Text.CharSet
import RtlFlow.Text.Lines
import RtlFlow.Text.Octets
import RtlFlow.Text.Quoted
import RtlFlow.Text.Search
import RtlFlow.Text.Unicode.Age
import RtlFlow.Text.Unicode.Break
import RtlFlow.Text.Unicode.CaseMap
import RtlFlow.Text.Unicode.Category
import RtlFlow.Text.Unicode.Letter
import RtlFlow.Text.Unicode.Property
import RtlFlow.Text.Unicode.Runs
import RtlFlow.Text.Unicode.Script
import RtlFlow.Text.Utf8
import RtlFlow.Timestamp
import RtlFlow.Toml.Basic
import RtlFlow.Toml.Reading
import RtlFlow.Toml.Scalar
import RtlFlow.Tool.Backend
import RtlFlow.Tool.CommandBackend
import RtlFlow.Tool.Invocation
import RtlFlow.Tool.Launch
import RtlFlow.Tool.Operation
import RtlFlow.Tool.Process
import RtlFlow.Tool.Reader
import RtlFlow.Tool.Request
import RtlFlow.Tool.Runner
import RtlFlow.Tool.Template
import RtlFlow.Vhdl.Clause
import RtlFlow.Vhdl.Facts
import RtlFlow.Vhdl.Scan
