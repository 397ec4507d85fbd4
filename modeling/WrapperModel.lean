import WrapperModel.Assembly
import WrapperModel.CommandLine.Generation
import WrapperModel.CommandLine.Invocation
import WrapperModel.CommandLine.LogFilter
import WrapperModel.CommandLine.Notice
import WrapperModel.CommandLine.Run
import WrapperModel.Configuration.Basic
import WrapperModel.Configuration.Document
import WrapperModel.Definition.Basic
import WrapperModel.Definition.Catalogue
import WrapperModel.Definition.Document
import WrapperModel.Definition.Json
import WrapperModel.Definition.Provenance
import WrapperModel.Enumeration.Mining
import WrapperModel.Enumeration.Registry
import WrapperModel.Files.Path
import WrapperModel.Files.Store
import WrapperModel.Files.Tree
import WrapperModel.Json.Basic
import WrapperModel.Json.Printer
import WrapperModel.Json.Quoted
import WrapperModel.Json.Reader
import WrapperModel.Json.Record
import WrapperModel.Json.Token
import WrapperModel.Main
import WrapperModel.Model.Basic
import WrapperModel.Model.Document
import WrapperModel.Model.Json
import WrapperModel.Model.Output
import WrapperModel.Model.Report
import WrapperModel.Model.Validation
import WrapperModel.Naming
import WrapperModel.Profile
import WrapperModel.Profile.Json
import WrapperModel.Proofs.Assembly.Findings
import WrapperModel.Proofs.Assembly.Incremental
import WrapperModel.Proofs.Assembly.Inheritance
import WrapperModel.Proofs.Assembly.Reordering
import WrapperModel.Proofs.CommandLine.Generation
import WrapperModel.Proofs.CommandLine.Invocation
import WrapperModel.Proofs.CommandLine.Validation
import WrapperModel.Proofs.Configuration.RoundTrip
import WrapperModel.Proofs.Configuration.Sections
import WrapperModel.Proofs.Definition.Catalogue
import WrapperModel.Proofs.Definition.Documents
import WrapperModel.Proofs.Definition.Names
import WrapperModel.Proofs.Definition.Skipping
import WrapperModel.Proofs.Enumeration.LastWriter
import WrapperModel.Proofs.Enumeration.Mining
import WrapperModel.Proofs.Enumeration.Registry
import WrapperModel.Proofs.Files.Directory
import WrapperModel.Proofs.Files.Store
import WrapperModel.Proofs.Files.Tree
import WrapperModel.Proofs.Json.Pretty
import WrapperModel.Proofs.Json.Quoted
import WrapperModel.Proofs.Json.Record
import WrapperModel.Proofs.Json.Token
import WrapperModel.Proofs.Model.Coverage
import WrapperModel.Proofs.Model.Multiplicity
import WrapperModel.Proofs.Model.Overview
import WrapperModel.Proofs.Model.RoundTrip
import WrapperModel.Proofs.Model.Validation
import WrapperModel.Proofs.Naming
import WrapperModel.Proofs.Text.Bytes
import WrapperModel.Proofs.Text.LetterCase
import WrapperModel.Proofs.Text.Pieces
import WrapperModel.Proofs.Usage.Alternation
import WrapperModel.Proofs.Usage.MapPlaceholder
import WrapperModel.Proofs.Usage.Segments
import WrapperModel.Proofs.Yaml.Block
import WrapperModel.Proofs.Yaml.Character
import WrapperModel.Proofs.Yaml.Document
import WrapperModel.Proofs.Yaml.DoubleQuoted
import WrapperModel.Proofs.Yaml.Lexer
import WrapperModel.Proofs.Yaml.Plain
import WrapperModel.Proofs.Yaml.Printable
import WrapperModel.Proofs.Yaml.Reading
import WrapperModel.Proofs.Yaml.Scalar
import WrapperModel.Proofs.Yaml.SingleQuoted
import WrapperModel.Proofs.Yaml.Tree
import WrapperModel.Text.Alphanumeric
import WrapperModel.Text.Blank
import WrapperModel.Text.Bytes
import WrapperModel.Text.CaseTables
import WrapperModel.Text.CodeRun
import WrapperModel.Text.ExtendingMark
import WrapperModel.Text.LetterCase
import WrapperModel.Text.Pieces
import WrapperModel.Text.Replace
import WrapperModel.Text.Uppercase
import WrapperModel.Text.WordCharacter
import WrapperModel.Usage.MapPlaceholder
import WrapperModel.Usage.Parameter
import WrapperModel.Usage.Template
import WrapperModel.ValueType
import WrapperModel.Yaml.Character
import WrapperModel.Yaml.Decode
import WrapperModel.Yaml.Error
import WrapperModel.Yaml.Printer
import WrapperModel.Yaml.Resolution
import WrapperModel.Yaml.Style
import WrapperModel.Yaml.Tag
import WrapperModel.Yaml.Token.Basic
import WrapperModel.Yaml.Token.Lexer
import WrapperModel.Yaml.Token.Name
import WrapperModel.Yaml.Token.Scalar
import WrapperModel.Yaml.Tree.Basic
import WrapperModel.Yaml.Tree.Reader
import WrapperModel.Proofs.Enumeration.LiteralLists
import WrapperModel.Proofs.Usage.Locality
import WrapperModel.Proofs.Assembly.Hints
import WrapperModel.Proofs.Assembly.Descent
import WrapperModel.Proofs.Usage.Repetitions
import WrapperModel.Proofs.Usage.Literals
import WrapperModel.Proofs.Assembly.Contributions
import WrapperModel.Proofs.Assembly.CommandWords
import WrapperModel.Proofs.Text.Replace
import WrapperModel.Proofs.Definition.Provenance
import WrapperModel.Proofs.Usage.Names
import WrapperModel.Proofs.Model.Rows
import WrapperModel.Proofs.Assembly.PlaceholderNames
import WrapperModel.Proofs.Assembly.PropertyRows
import WrapperModel.Proofs.Json.Members
import WrapperModel.Proofs.Model.Fields
import WrapperModel.Proofs.Model.Rewriting
import WrapperModel.Proofs.Naming.Passes
import WrapperModel.Proofs.Naming.Plurals
import WrapperModel.Proofs.Usage.Pairs
import WrapperModel.Proofs.Definition.RoundTrip
import WrapperModel.Proofs.Definition.OptionalTexts
import WrapperModel.Proofs.CommandLine.ListItems
