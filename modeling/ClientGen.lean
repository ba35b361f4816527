import ClientGen.Client.Assembly.AsyncClient
import ClientGen.Client.Assembly.Builder
import ClientGen.Client.Assembly.Execution
import ClientGen.Client.Assembly.Generator
import ClientGen.Client.Assembly.Interface
import ClientGen.Client.Assembly.Json
import ClientGen.Client.Assembly.Strategy
import ClientGen.Client.Assembly.SyncClient
import ClientGen.Client.Assembly.Xml
import ClientGen.Client.AsyncClient
import ClientGen.Client.Builder
import ClientGen.Client.Defaults
import ClientGen.Client.DryRun
import ClientGen.Client.Execution
import ClientGen.Client.Family
import ClientGen.Client.Generate
import ClientGen.Client.Interface
import ClientGen.Client.JsonStrategy
import ClientGen.Client.Names
import ClientGen.Client.Plan
import ClientGen.Client.Sdk
import ClientGen.Client.Strategy
import ClientGen.Client.SyncClient
import ClientGen.Client.XmlStrategy
import ClientGen.Command.Arguments
import ClientGen.Command.Job
import ClientGen.Command.Report
import ClientGen.Decimal.Shortest
import ClientGen.Files.Output
import ClientGen.Files.Path
import ClientGen.Files.System
import ClientGen.Files.Tree
import ClientGen.Java.Body
import ClientGen.Java.ClassName
import ClientGen.Java.Code
import ClientGen.Java.CodeBuilder
import ClientGen.Java.Declaration
import ClientGen.Java.Format
import ClientGen.Java.Imports
import ClientGen.Java.Layout
import ClientGen.Java.Literal
import ClientGen.Java.Name
import ClientGen.Java.Page
import ClientGen.Java.SourceFile
import ClientGen.Java.TypeName
import ClientGen.Json.Numeral
import ClientGen.Json.Record
import ClientGen.Json.Text
import ClientGen.Json.Token
import ClientGen.Json.Value
import ClientGen.Main
import ClientGen.Matching.Bracket
import ClientGen.Matching.Escape
import ClientGen.Matching.Excerpt
import ClientGen.Matching.Pattern
import ClientGen.Matching.Reader
import ClientGen.Matching.Span
import ClientGen.Matching.Support
import ClientGen.Model.Document
import ClientGen.Model.Operation
import ClientGen.Model.OrderedMap
import ClientGen.Model.Protocol
import ClientGen.Model.Service
import ClientGen.Model.Shape
import ClientGen.Proofs.Client.Checks
import ClientGen.Proofs.Client.Declarations
import ClientGen.Proofs.Client.Documentation
import ClientGen.Proofs.Client.FilePaths
import ClientGen.Proofs.Client.Generation
import ClientGen.Proofs.Client.Members
import ClientGen.Proofs.Client.RequestParameter
import ClientGen.Proofs.Client.Requirements
import ClientGen.Proofs.Client.WrittenNames
import ClientGen.Proofs.Code.Atoms
import ClientGen.Proofs.Code.Outcome
import ClientGen.Proofs.Code.Steps
import ClientGen.Proofs.Java.Comments
import ClientGen.Proofs.Java.ImportTable
import ClientGen.Proofs.Java.Indentation
import ClientGen.Proofs.Java.LayoutParts
import ClientGen.Proofs.Java.Mentions
import ClientGen.Proofs.Java.PageLines
import ClientGen.Proofs.Java.Regular
import ClientGen.Proofs.Java.Scoping
import ClientGen.Proofs.Java.Spelling
import ClientGen.Proofs.Java.WrittenClasses
import ClientGen.Proofs.Json.Documents
import ClientGen.Proofs.Json.Grammar
import ClientGen.Proofs.Json.Lexing
import ClientGen.Proofs.Json.Presentation
import ClientGen.Proofs.Json.Reading
import ClientGen.Proofs.Json.Records
import ClientGen.Proofs.Model.Assembly
import ClientGen.Proofs.Model.Presentation
import ClientGen.Proofs.Model.RoundTrip
import ClientGen.Proofs.Text.Pieces
import ClientGen.Settings.Filter
import ClientGen.Settings.Settings
import ClientGen.Text.AlphabeticTable
import ClientGen.Text.Blank
import ClientGen.Text.Bytes
import ClientGen.Text.Case
import ClientGen.Text.CaseIgnorableTable
import ClientGen.Text.CaseTable
import ClientGen.Text.CodeRange
import ClientGen.Text.Hexadecimal
import ClientGen.Text.Letter
import ClientGen.Text.Lines
import ClientGen.Text.PrintableTable
import ClientGen.Text.Quoted
import ClientGen.Toml.Document
import ClientGen.Toml.Scalar
import ClientGen.Toml.Statement
import ClientGen.Toml.Table
import ClientGen.Toml.Text
import ClientGen.Proofs.Client.CheckedNames
import ClientGen.Proofs.Client.Declared
import ClientGen.Proofs.Client.ProtocolIndependence
import ClientGen.Proofs.Client.Signatures
import ClientGen.Proofs.Client.Registrations
import ClientGen.Proofs.Client.LegalNames
import ClientGen.Proofs.Client.LexicalSafety
import ClientGen.Proofs.Client.MemberForm
import ClientGen.Proofs.Client.FileForm
import ClientGen.Proofs.Client.StrategyBinding
import ClientGen.Proofs.Code.Clauses
import ClientGen.Proofs.Client.DryRunExecution
import ClientGen.Proofs.Client.DryRuns
import ClientGen.Proofs.Text.Occurrences
import ClientGen.Proofs.Java.WrittenText
import ClientGen.Proofs.Code.Creations
import ClientGen.Proofs.Code.Replacement
import ClientGen.Proofs.Client.Envelopes
import ClientGen.Proofs.Code.Constructors
import ClientGen.Proofs.Client.Constructors
import ClientGen.Proofs.Client.Configuration
import ClientGen.Proofs.Code.NormalForm
import ClientGen.Proofs.Code.FormatLanguage
import ClientGen.Proofs.Text.LineEnds
import ClientGen.Proofs.Java.GeneratedMarker
import ClientGen.Proofs.Files.Cleaning
import ClientGen.Proofs.Java.TidyCode
import ClientGen.Proofs.Java.TidyFiles
import ClientGen.Proofs.Client.TidyMembers
import ClientGen.Proofs.Client.CleanSources
import ClientGen.Proofs.Java.Nesting
import ClientGen.Proofs.Text.CaseForms
import ClientGen.Proofs.Java.DerivedNames
import ClientGen.Proofs.Client.ConventionalNames
import ClientGen.Proofs.Java.Emission
import ClientGen.Proofs.Java.LiteralReading
import ClientGen.Proofs.Files.CleanedTexts
import ClientGen.Proofs.Files.KeptLiterals
import ClientGen.Proofs.Text.Trimming
import ClientGen.Proofs.Client.ConfiguredNames
