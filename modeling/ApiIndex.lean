import ApiIndex.Batch
import ApiIndex.Bracket.Depth
import ApiIndex.Bracket.Family
import ApiIndex.Bracket.Scan
import ApiIndex.BuildError
import ApiIndex.Collect
import ApiIndex.Command.Request
import ApiIndex.Command.Run
import ApiIndex.Command.Schema
import ApiIndex.Command.Table
import ApiIndex.Config
import ApiIndex.Config.File
import ApiIndex.Diagnostic
import ApiIndex.Document.Builder
import ApiIndex.Document.Outline
import ApiIndex.Files.Path
import ApiIndex.Files.Tree
import ApiIndex.Files.Walk
import ApiIndex.Forest
import ApiIndex.Json.Codec
import ApiIndex.Json.Parser
import ApiIndex.Json.Printer
import ApiIndex.Json.Record
import ApiIndex.Json.Value
import ApiIndex.Kind
import ApiIndex.Main
import ApiIndex.Naming
import ApiIndex.Reference.Registry
import ApiIndex.Reference.Target
import ApiIndex.Signature.Arguments
import ApiIndex.Signature.Basic
import ApiIndex.Signature.Failure
import ApiIndex.Signature.Operator
import ApiIndex.Signature.Parser
import ApiIndex.Signature.Segment
import ApiIndex.Text.Alphabetic
import ApiIndex.Text.Blank
import ApiIndex.Text.CodeRanges
import ApiIndex.Text.Joining
import ApiIndex.Text.Lines
import ApiIndex.Text.Lowercase
import ApiIndex.Text.Numeric
import ApiIndex.Text.Pictograph
import ApiIndex.Text.Printable
import ApiIndex.Text.Quoted
import ApiIndex.Text.Span
import ApiIndex.Text.Width
import ApiIndex.Text.Word
import ApiIndex.Proofs.Bracket.Balance
import ApiIndex.Proofs.Bracket.Marks
import ApiIndex.Proofs.Bracket.Queries
import ApiIndex.Proofs.Signature.Grammar
import ApiIndex.Proofs.Signature.Segment
import ApiIndex.Proofs.Signature.Acceptance
import ApiIndex.Proofs.Document.Coherence
import ApiIndex.Proofs.Document.Nesting
import ApiIndex.Proofs.Document.Replay
import ApiIndex.Proofs.Text.Trim
import ApiIndex.Proofs.Signature.Entries
import ApiIndex.Proofs.Signature.Reparse
import ApiIndex.Proofs.Batch.Account
import ApiIndex.Proofs.Batch.Order
import ApiIndex.Proofs.Forest.Ancestry
import ApiIndex.Proofs.Forest.Preorder
import ApiIndex.Proofs.Signature.Indexer
import ApiIndex.Proofs.Forest.QualifiedName
import ApiIndex.Proofs.Document.Extension
import ApiIndex.Proofs.Batch.Permutation
import ApiIndex.Proofs.Reference.WriteOnce
import ApiIndex.Proofs.Batch.Composition
import ApiIndex.Proofs.Document.Registration
import ApiIndex.Proofs.Forest.Opening
import ApiIndex.Proofs.Bracket.Imbalance
import ApiIndex.Proofs.Bracket.Group
import ApiIndex.Proofs.Bracket.CommonStack
import ApiIndex.Proofs.Signature.Nesting
import ApiIndex.Proofs.Signature.Cursor
import ApiIndex.Proofs.Signature.Rejection
import ApiIndex.Proofs.Signature.Fallback
import ApiIndex.Proofs.Forest.Rule
import ApiIndex.Proofs.Diagnostic
import ApiIndex.Proofs.Document.Rules
import ApiIndex.Proofs.Bracket.Verdict
import ApiIndex.Proofs.Signature.Splitting
import ApiIndex.Proofs.Text.Pattern
import ApiIndex.Proofs.Document.Outline
import ApiIndex.Proofs.Text.Run
import ApiIndex.Proofs.Text.Lines
import ApiIndex.Proofs.Document.Renumbering
import ApiIndex.Proofs.Document.BodyText
import ApiIndex.Proofs.Bracket.Matching
import ApiIndex.Proofs.Batch.Anchors
import ApiIndex.Proofs.Json.Grammar
import ApiIndex.Proofs.Json.Reading
import ApiIndex.Proofs.Json.Writing
import ApiIndex.Proofs.Json.Codec
import ApiIndex.Proofs.Files.Path
import ApiIndex.Proofs.Files.Resolve
import ApiIndex.Proofs.Files.Tree
import ApiIndex.Proofs.Files.Walk
import ApiIndex.Proofs.Collect.Finding
import ApiIndex.Proofs.Collect.Correspondence
import ApiIndex.Proofs.Bracket.Ranges
import ApiIndex.Proofs.Signature.NameSegments
import ApiIndex.Proofs.Signature.Boundaries
