import FieldAudit.Check
import FieldAudit.Command.Arguments
import FieldAudit.Command.Line
import FieldAudit.Command.Run
import FieldAudit.Command.Template
import FieldAudit.Command.Usage
import FieldAudit.Converter.Candidate
import FieldAudit.Converter.Pair
import FieldAudit.Converter.Policy
import FieldAudit.Converter.Verdict
import FieldAudit.Decimal.Read
import FieldAudit.Decimal.Shortest
import FieldAudit.Entries
import FieldAudit.Files.Changes
import FieldAudit.Files.Collect
import FieldAudit.Files.Route
import FieldAudit.Files.Tree
import FieldAudit.Finding
import FieldAudit.Glob.Basic
import FieldAudit.Glob.Parser
import FieldAudit.Main
import FieldAudit.OrderedSet
import FieldAudit.Pattern
import FieldAudit.Program
import FieldAudit.Report.Json
import FieldAudit.Report.Note
import FieldAudit.Report.Pretty
import FieldAudit.Report.SourceLine
import FieldAudit.Report.Style
import FieldAudit.Settings.Basic
import FieldAudit.Settings.Read
import FieldAudit.Settings.Validity
import FieldAudit.Similarity
import FieldAudit.Source.Doc
import FieldAudit.Source.File
import FieldAudit.Source.Glyph
import FieldAudit.Source.Grammar.Expressions
import FieldAudit.Source.Grammar.Statements
import FieldAudit.Source.Grammar.Types
import FieldAudit.Source.Number
import FieldAudit.Source.Reader
import FieldAudit.Source.Reading
import FieldAudit.Source.Token
import FieldAudit.Suppression
import FieldAudit.Syntax.Basic
import FieldAudit.Syntax.Node
import FieldAudit.Syntax.TypeExpr
import FieldAudit.Tag
import FieldAudit.Text.Blank
import FieldAudit.Text.Case
import FieldAudit.Text.Quoted
import FieldAudit.Text.Table.Case
import FieldAudit.Text.Table.Hidden
import FieldAudit.Text.Table.Letter
import FieldAudit.Text.Table.Mark
import FieldAudit.Text.Word
import FieldAudit.Types.Basic
import FieldAudit.Types.Resolve
import FieldAudit.Usage.Basic
import FieldAudit.Usage.Collect
import FieldAudit.Usage.Delegation
import FieldAudit.Usage.Literal
import FieldAudit.Usage.Node
import FieldAudit.Usage.Output
import FieldAudit.Yaml.Cell
import FieldAudit.Yaml.Node
import FieldAudit.Yaml.Problem
import FieldAudit.Yaml.Scalar
import FieldAudit.Yaml.Token
import FieldAudit.Proofs.Collection
import FieldAudit.Proofs.DroppedFields
import FieldAudit.Proofs.PositionalLiterals
import FieldAudit.Proofs.KeyedConverters
import FieldAudit.Proofs.RunReport
import FieldAudit.Proofs.OrderIndependence
import FieldAudit.Proofs.LenientSettings
import FieldAudit.Proofs.Composition
import FieldAudit.Proofs.NameIndependence
import FieldAudit.Proofs.ImportPaths
import FieldAudit.Proofs.References
import FieldAudit.Proofs.Loading
import FieldAudit.Proofs.Delegation
import FieldAudit.Proofs.UsageNodes
import FieldAudit.Proofs.MoreUsage
import FieldAudit.Proofs.Promotion
import FieldAudit.Proofs.Gaps
import FieldAudit.Proofs.SelectorChains
import FieldAudit.Proofs.UsageSummary
import FieldAudit.Proofs.RangeElements
import FieldAudit.Proofs.Classification
import FieldAudit.Proofs.EditDistance
import FieldAudit.Proofs.DirectionIndependence
import FieldAudit.Proofs.AliasIdentity
import FieldAudit.Proofs.PathSegments
import FieldAudit.Proofs.EmbeddingTree
import FieldAudit.Proofs.RepeatedPaths
import FieldAudit.Proofs.LiteralFields
import FieldAudit.Proofs.BuilderChains
import FieldAudit.Proofs.TagEntries
import FieldAudit.Proofs.TextPieces
import FieldAudit.Proofs.Directives
import FieldAudit.Proofs.DocComments
import FieldAudit.Proofs.Deprecations
import FieldAudit.Proofs.ImportNames
import FieldAudit.Proofs.PatternComponents
import FieldAudit.Proofs.FileCollection
import FieldAudit.Proofs.PrunedWalk
import FieldAudit.Proofs.TagSpellings
import FieldAudit.Proofs.AlignedTable
