import RpgSymbols.Table
import RpgSymbols.Text.Blank
import RpgSymbols.Text.CodeRange
import RpgSymbols.Text.DecimalDigit
import RpgSymbols.Text.Hex
import RpgSymbols.Text.Order
import RpgSymbols.Text.Printable
import RpgSymbols.Text.Quoted
import RpgSymbols.Text.Utf8
import RpgSymbols.Text.Case.Run
import RpgSymbols.Text.Case.Upper
import RpgSymbols.Text.Case.Lower
import RpgSymbols.Text.Case.Fold
import RpgSymbols.Number.Digits
import RpgSymbols.Number.Binary64
import RpgSymbols.Number.Word
import RpgSymbols.Json.Value
import RpgSymbols.Json.Printer
import RpgSymbols.Json.Parser
import RpgSymbols.Symbol.Declaration
import RpgSymbols.Symbol.Model
import RpgSymbols.Symbol.Encode
import RpgSymbols.Source.Statement
import RpgSymbols.Source.Documentation
import RpgSymbols.Source.ProcedureIndex
import RpgSymbols.Source.Draft
import RpgSymbols.Source.Assembler
import RpgSymbols.Files.SlashPath
import RpgSymbols.Include.Directive
import RpgSymbols.Include.Address
import RpgSymbols.Cache.Source
import RpgSymbols.Cache.Event
import RpgSymbols.Cache.Content
import RpgSymbols.Cache.Model
import RpgSymbols.Workspace.Session
import RpgSymbols.Workspace.Lint
import RpgSymbols.Schema.Fault
import RpgSymbols.Schema.IntegerText
import RpgSymbols.Schema.Scalar
import RpgSymbols.Schema.Declaration
import RpgSymbols.Toml.Value
import RpgSymbols.Toml.Scalar
import RpgSymbols.Toml.Parser
import RpgSymbols.Files.Tree
import RpgSymbols.Files.Resolve
import RpgSymbols.Files.LocalSource
import RpgSymbols.Files.Sources
import RpgSymbols.Pattern.Class
import RpgSymbols.Pattern.Glob
import RpgSymbols.Pattern.Ignore
import RpgSymbols.Settings.Config
import RpgSymbols.Settings.OutputDir
import RpgSymbols.Settings.Load
import RpgSymbols.Artifact.Record
import RpgSymbols.Artifact.Generate
import RpgSymbols.Command.Arguments
import RpgSymbols.Command.Run
import RpgSymbols.Main
import RpgSymbols.Proofs.Source.Instruction
import RpgSymbols.Proofs.Source.Effect
import RpgSymbols.Proofs.Source.Origin
import RpgSymbols.Proofs.Source.Growth
import RpgSymbols.Proofs.Source.Nesting
import RpgSymbols.Proofs.Source.Scope
import RpgSymbols.Proofs.Source.DocumentationReach
import RpgSymbols.Proofs.Source.OnePerName
import RpgSymbols.Proofs.Source.Blocks
import RpgSymbols.Proofs.Source.Completeness
import RpgSymbols.Proofs.Source.Consistency
import RpgSymbols.Proofs.Source.Provenance
import RpgSymbols.Proofs.Text.Parts
import RpgSymbols.Proofs.Include.CanonicalPath
import RpgSymbols.Proofs.Cache.Fetching
import RpgSymbols.Proofs.Include.Discovery
import RpgSymbols.Proofs.Include.OwnDeclarations
import RpgSymbols.Proofs.Cache.FetchSequence
import RpgSymbols.Proofs.Include.Building
import RpgSymbols.Proofs.Workspace.Coherence
import RpgSymbols.Proofs.Workspace.History
import RpgSymbols.Proofs.Workspace.Freshness
import RpgSymbols.Proofs.Source.Composition
import RpgSymbols.Proofs.Source.Caseless
import RpgSymbols.Proofs.Source.Positions
import RpgSymbols.Proofs.Source.SourceOrder
import RpgSymbols.Proofs.Files.Writing
import RpgSymbols.Proofs.Files.Leading
import RpgSymbols.Proofs.Files.Settling
import RpgSymbols.Proofs.Files.FullResolution
import RpgSymbols.Proofs.Files.Containment
import RpgSymbols.Proofs.Files.Selection
import RpgSymbols.Proofs.Files.View
import RpgSymbols.Proofs.Text.Encoding
import RpgSymbols.Proofs.Json.Tokens
import RpgSymbols.Proofs.Json.Readers
import RpgSymbols.Proofs.Json.Grammar
import RpgSymbols.Proofs.Json.ReadingBack
import RpgSymbols.Proofs.Json.LineBreaks
import RpgSymbols.Proofs.Symbol.ReadingBack
import RpgSymbols.Proofs.Artifact.Rows
import RpgSymbols.Proofs.Artifact.ReadingBack
import RpgSymbols.Proofs.Command.Agreement
import RpgSymbols.Proofs.Attempt.Access
import RpgSymbols.Proofs.Attempt.Assembling
import RpgSymbols.Proofs.Attempt.Resolving
import RpgSymbols.Proofs.Attempt.Session
import RpgSymbols.Proofs.Cache.CacheRun
import RpgSymbols.Proofs.Cache.MemberLines
import RpgSymbols.Proofs.Files.Lookup
import RpgSymbols.Proofs.Files.MemberNames
import RpgSymbols.Proofs.Workspace.SavedMember
import RpgSymbols.Proofs.Workspace.LinterOptions
import RpgSymbols.Proofs.Artifact.AsSource
import RpgSymbols.Proofs.Artifact.Regeneration
import RpgSymbols.Proofs.Workspace.Isolation
import RpgSymbols.Proofs.Source.Suspension
import RpgSymbols.Proofs.Source.WellFormed
import RpgSymbols.Proofs.Attempt.SlotLookup
import RpgSymbols.Proofs.Attempt.Feedings
import RpgSymbols.Proofs.Include.MemberSpelling
import RpgSymbols.Proofs.Include.CaselessTargets
import RpgSymbols.Proofs.Source.DocumentationParts
import RpgSymbols.Proofs.Source.ParameterTags
import RpgSymbols.Proofs.Files.Looping
import RpgSymbols.Proofs.Files.Unrolling
import RpgSymbols.Proofs.Settings.OutputDir
import RpgSymbols.Proofs.Include.StreamSpelling
import RpgSymbols.Proofs.Files.StreamFiles
import RpgSymbols.Proofs.Files.SourceListing
import RpgSymbols.Proofs.Files.Skipping
import RpgSymbols.Proofs.Artifact.OutputSkipped
