import SourceAudit.Analyzer.Basic
import SourceAudit.Analyzer.Outputs
import SourceAudit.Analyzer.Run
import SourceAudit.Command.Arguments
import SourceAudit.Command.Invocation
import SourceAudit.Command.Run
import SourceAudit.Command.World
import SourceAudit.Complexity.Estimate
import SourceAudit.Complexity.Growth
import SourceAudit.Complexity.LoopDepth
import SourceAudit.Complexity.LoopToken
import SourceAudit.Complexity.Recursion
import SourceAudit.Config.Basic
import SourceAudit.Config.Environment
import SourceAudit.Config.Fault
import SourceAudit.Config.Sections
import SourceAudit.Config.Settings
import SourceAudit.Config.Thresholds
import SourceAudit.Context.Basic
import SourceAudit.Context.Guards
import SourceAudit.Context.Names
import SourceAudit.Context.TryBlock
import SourceAudit.Detector.Battery
import SourceAudit.Detector.Duplicates
import SourceAudit.Detector.Risk
import SourceAudit.Detector.Statements
import SourceAudit.Detector.Structure
import SourceAudit.Detector.Variables
import SourceAudit.Digest.Fingerprint
import SourceAudit.Digest.Sha256
import SourceAudit.Document.Display
import SourceAudit.Document.JsonReader
import SourceAudit.Document.JsonWriter
import SourceAudit.Document.Toml.Reader
import SourceAudit.Document.Toml.Scalar
import SourceAudit.Document.Toml.Statement
import SourceAudit.Document.Toml.Word
import SourceAudit.Document.Value
import SourceAudit.Failure
import SourceAudit.File.Expansion
import SourceAudit.File.Name
import SourceAudit.File.Source
import SourceAudit.File.Tree
import SourceAudit.Issue.Basic
import SourceAudit.Language.Basic
import SourceAudit.Language.C
import SourceAudit.Language.CPlusPlus
import SourceAudit.Language.Classifier
import SourceAudit.Language.Go
import SourceAudit.Language.Java
import SourceAudit.Language.JavaScript
import SourceAudit.Language.Python
import SourceAudit.Language.Registry
import SourceAudit.Language.Rust
import SourceAudit.Language.TypeScript
import SourceAudit.Log.Basic
import SourceAudit.Main
import SourceAudit.Metrics.Basic
import SourceAudit.Metrics.FunctionSpan
import SourceAudit.Number.Hexadecimal
import SourceAudit.Number.Quantity
import SourceAudit.Number.Reading
import SourceAudit.Number.Rounding
import SourceAudit.Number.Shortest
import SourceAudit.Pattern.Basic
import SourceAudit.Pattern.Match
import SourceAudit.Pattern.Notation
import SourceAudit.Proofs.Analyzer.CachedCalls
import SourceAudit.Proofs.Analyzer.FailingStages
import SourceAudit.Proofs.Analyzer.SilentService
import SourceAudit.Proofs.Complexity.BareLoops
import SourceAudit.Proofs.Complexity.BracedLoops
import SourceAudit.Proofs.Complexity.CallForms
import SourceAudit.Proofs.Complexity.LoopGrowth
import SourceAudit.Proofs.Complexity.LoopRun
import SourceAudit.Proofs.Complexity.LoopTokens
import SourceAudit.Proofs.Complexity.QuietText
import SourceAudit.Proofs.Complexity.SelfCalls
import SourceAudit.Proofs.Context.BraceLevel
import SourceAudit.Proofs.Context.ProtectedBody
import SourceAudit.Proofs.Detector.ThresholdEffect
import SourceAudit.Proofs.Digest.Fingerprint
import SourceAudit.Proofs.Document.CompactText
import SourceAudit.Proofs.Document.ScalarText
import SourceAudit.Proofs.Language.Resolution
import SourceAudit.Proofs.Number.BinaryFraction
import SourceAudit.Proofs.Number.DecimalText
import SourceAudit.Proofs.Number.ShortestText
import SourceAudit.Proofs.Pattern.Matches
import SourceAudit.Proofs.Pattern.Search
import SourceAudit.Proofs.Remote.Contribution
import SourceAudit.Proofs.Source.PreparedLines
import SourceAudit.Proofs.Source.Segments
import SourceAudit.Proofs.Store.Entries
import SourceAudit.Proofs.Syntax.BracketReport
import SourceAudit.Proofs.Syntax.BracketScan
import SourceAudit.Proofs.Text.JoinedLines
import SourceAudit.Proofs.Violation.LineMerge
import SourceAudit.Remote.Address
import SourceAudit.Remote.Answer
import SourceAudit.Remote.Gateway
import SourceAudit.Remote.Host
import SourceAudit.Remote.Merge
import SourceAudit.Remote.Numeral
import SourceAudit.Remote.Payload
import SourceAudit.Remote.Reading
import SourceAudit.Remote.Salvage
import SourceAudit.Remote.Writing
import SourceAudit.Report.Basic
import SourceAudit.Report.Console
import SourceAudit.Report.Markdown
import SourceAudit.Report.Markup
import SourceAudit.Report.Record
import SourceAudit.Result.Basic
import SourceAudit.Result.Rating
import SourceAudit.Score.Advice
import SourceAudit.Score.Basic
import SourceAudit.Score.Rating
import SourceAudit.Security.Report
import SourceAudit.Security.Risk
import SourceAudit.Security.Signature
import SourceAudit.Skeleton.Basic
import SourceAudit.Skeleton.Kind
import SourceAudit.Skeleton.Parameters
import SourceAudit.Skeleton.Sample
import SourceAudit.Skeleton.Signature
import SourceAudit.Source.Depth
import SourceAudit.Source.Lexeme
import SourceAudit.Source.Prepared
import SourceAudit.Store.Basic
import SourceAudit.Store.Cache
import SourceAudit.Syntax.Bracket
import SourceAudit.Syntax.Check
import SourceAudit.Syntax.Finding
import SourceAudit.Text.Encoding
import SourceAudit.Text.Basic
import SourceAudit.Text.Position
import SourceAudit.Text.Quoted
import SourceAudit.Text.Utf8
import SourceAudit.Unicode.Basic
import SourceAudit.Unicode.CaseTable
import SourceAudit.Unicode.CasedTable
import SourceAudit.Unicode.HiddenTable
import SourceAudit.Unicode.IdentifierTable
import SourceAudit.Unicode.WordTable
import SourceAudit.Violation.Category
import SourceAudit.Violation.Merge
import SourceAudit.Violation.Report
import SourceAudit.Violation.Similarity
import SourceAudit.Violation.Smell
import SourceAudit.Proofs.Config.ToldSettings
import SourceAudit.Proofs.Analyzer.SharedStore
import SourceAudit.Proofs.Store.BoundedCache
import SourceAudit.Proofs.Document.TomlTables
import SourceAudit.Proofs.Config.Priority
import SourceAudit.Proofs.Analyzer.ExistingPlaces
import SourceAudit.Proofs.Remote.Rendering
import SourceAudit.Proofs.Command.WithoutService
import SourceAudit.Proofs.Config.KeptRules
import SourceAudit.Proofs.Score.Judgements
import SourceAudit.Proofs.Text.MarkedText
import SourceAudit.Proofs.Violation.KeptPriority
import SourceAudit.Proofs.Detector.UnusedNames
import SourceAudit.Proofs.Context.BlockLines
import SourceAudit.Proofs.Violation.ReportTallies
import SourceAudit.Proofs.Metrics.FunctionEnds
import SourceAudit.Proofs.Complexity.LoopHeads
import SourceAudit.Proofs.Complexity.EnclosedItems
import SourceAudit.Proofs.Complexity.IndentedLoops
import SourceAudit.Proofs.Source.BraceDepths
import SourceAudit.Proofs.Syntax.ClosingLine
import SourceAudit.Proofs.Detector.UnguardedLines
import SourceAudit.Proofs.Detector.RepeatedBlocks
import SourceAudit.Proofs.Metrics.NestedFunctions
import SourceAudit.Proofs.Detector.MeasuredSizes
import SourceAudit.Proofs.Language.ScoreRanking
import SourceAudit.Proofs.Language.FileSuffixes
import SourceAudit.Proofs.Skeleton.ParameterTexts
import SourceAudit.Proofs.Skeleton.HeaderLine
import SourceAudit.Proofs.Skeleton.HeaderParameters
import SourceAudit.Proofs.Source.RawLiterals
import SourceAudit.Proofs.Text.LinePositions
import SourceAudit.Proofs.Skeleton.NameWords
import SourceAudit.Proofs.Skeleton.ScriptParameters
