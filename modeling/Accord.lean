import Accord.Absent
import Accord.Calls
import Accord.Cli.Arguments
import Accord.Cli.Misuse
import Accord.Cli.Run
import Accord.Contract.Address
import Accord.Contract.Collection
import Accord.Contract.Document
import Accord.Contract.Fault
import Accord.Endpoint
import Accord.Files.Path
import Accord.Files.Tree
import Accord.Json.Basic
import Accord.Json.Printer
import Accord.Json.Reader
import Accord.Lint
import Accord.Lint.Body
import Accord.Lint.Coverage
import Accord.Lint.Finding
import Accord.Lint.Value
import Accord.Main
import Accord.Number.Binary64
import Accord.Number.Hex
import Accord.Number.Integer
import Accord.Number.Shortest
import Accord.Project
import Accord.Proofs.Aligned
import Accord.Proofs.Calls
import Accord.Proofs.Calls.Alias
import Accord.Proofs.Calls.BasePath
import Accord.Proofs.Calls.Options
import Accord.Proofs.Calls.Payload
import Accord.Proofs.Calls.Response
import Accord.Proofs.Cli.Settings
import Accord.Proofs.Contract.Address
import Accord.Proofs.Contract.Folder
import Accord.Proofs.Contract.Form
import Accord.Proofs.Contract.Leaf
import Accord.Proofs.Contract.Replacement
import Accord.Proofs.Contract.Spelling
import Accord.Proofs.Contract.Typed
import Accord.Proofs.DocumentOrder
import Accord.Proofs.Files.Path
import Accord.Proofs.Json.Limit
import Accord.Proofs.Lint.Accounting
import Accord.Proofs.Lint.Block
import Accord.Proofs.Lint.Body
import Accord.Proofs.Lint.Clean
import Accord.Proofs.Lint.Composition
import Accord.Proofs.Lint.Coverage
import Accord.Proofs.Lint.Demand
import Accord.Proofs.Lint.EnumValue
import Accord.Proofs.Lint.Enumerated
import Accord.Proofs.Lint.Layout
import Accord.Proofs.Lint.Meeting
import Accord.Proofs.Lint.NestedArray
import Accord.Proofs.Lint.Order
import Accord.Proofs.Lint.Rearrangement
import Accord.Proofs.Lint.Respelling
import Accord.Proofs.Lint.Sample
import Accord.Proofs.Lint.Value
import Accord.Proofs.Lint.WebAddress
import Accord.Proofs.Number.Literal
import Accord.Proofs.Report
import Accord.Proofs.Route
import Accord.Proofs.Route.Canonical
import Accord.Proofs.Route.Segment
import Accord.Proofs.Script.Alias
import Accord.Proofs.Script.Binding
import Accord.Proofs.Script.Concatenation
import Accord.Proofs.Script.Exchange
import Accord.Proofs.Script.ExchangedText
import Accord.Proofs.Script.Frame
import Accord.Proofs.Script.ImportedName
import Accord.Proofs.Script.Nameless
import Accord.Proofs.Script.Node
import Accord.Proofs.Script.Position
import Accord.Proofs.Script.QualifiedName
import Accord.Proofs.Script.Scope
import Accord.Proofs.Script.Spacing
import Accord.Proofs.Script.Template
import Accord.Proofs.Script.TemplateOctets
import Accord.Proofs.Script.TypeContext
import Accord.Proofs.Script.TypeName
import Accord.Proofs.Script.Walk
import Accord.Proofs.Settings
import Accord.Proofs.SourceUnit
import Accord.Proofs.Sources
import Accord.Proofs.Table
import Accord.Proofs.Text
import Accord.Proofs.Text.Utf8
import Accord.Proofs.Types.Acyclic
import Accord.Proofs.Types.Alike
import Accord.Proofs.Types.Closure
import Accord.Proofs.Types.Collect
import Accord.Proofs.Types.Description
import Accord.Proofs.Types.Enumeration
import Accord.Proofs.Types.Inheritance
import Accord.Proofs.Types.Layout
import Accord.Proofs.Types.Order
import Accord.Proofs.Types.Registry
import Accord.Proofs.Types.Signature
import Accord.Proofs.Types.Union
import Accord.Proofs.Url
import Accord.Proofs.Url.Resolution
import Accord.Proofs.Url.WebAddress
import Accord.Report
import Accord.Route
import Accord.Script.Grammar.Basic
import Accord.Script.Grammar.Classes
import Accord.Script.Grammar.Declarations
import Accord.Script.Grammar.Expressions
import Accord.Script.Grammar.Markup
import Accord.Script.Grammar.Members
import Accord.Script.Grammar.Statements
import Accord.Script.Grammar.Types
import Accord.Script.Kind
import Accord.Script.Layout
import Accord.Script.Lexeme
import Accord.Script.Literal
import Accord.Script.Node
import Accord.Script.Parse
import Accord.Script.Scope
import Accord.Script.TypeName
import Accord.Script.Walk
import Accord.Settings
import Accord.SourceUnit
import Accord.Sources
import Accord.Table
import Accord.Text.Blank
import Accord.Text.Escaped
import Accord.Text.Identifier
import Accord.Text.Pieces
import Accord.Text.Printable
import Accord.Text.Quoted
import Accord.Text.Ranges
import Accord.Text.Search
import Accord.Text.Similarity
import Accord.Text.Upper
import Accord.Text.Utf8
import Accord.Text.WordChar
import Accord.Types.Collect
import Accord.Types.Declaration
import Accord.Types.Definition
import Accord.Types.Inheritance
import Accord.Types.Registry
import Accord.Url
import Accord.Url.Host
import Accord.Yaml.Break
import Accord.Yaml.Indentation
import Accord.Yaml.Library
import Accord.Yaml.Scalar
import Accord.Yaml.Tag
import Accord.Yaml.Token
import Accord.Yaml.Tree
import Accord.Yaml.Value
