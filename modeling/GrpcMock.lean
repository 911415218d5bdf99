import GrpcMock.Base64
import GrpcMock.Binary.Format
import GrpcMock.CommandLine.Command
import GrpcMock.CommandLine.Options
import GrpcMock.Config
import GrpcMock.Contract.Basic
import GrpcMock.Contract.Format
import GrpcMock.Contract.Reader
import GrpcMock.Decimal.Fixed
import GrpcMock.Decimal.Integer
import GrpcMock.Decimal.Numeral
import GrpcMock.Decimal.Shortest
import GrpcMock.Document
import GrpcMock.Document.Need
import GrpcMock.Document.Record
import GrpcMock.Document.Typed
import GrpcMock.Failure
import GrpcMock.Files
import GrpcMock.Generate
import GrpcMock.Go.Ident
import GrpcMock.Go.Imports
import GrpcMock.Go.Literal
import GrpcMock.Go.Spelling
import GrpcMock.Host
import GrpcMock.Json.Reader
import GrpcMock.Json.Token
import GrpcMock.Json.Value
import GrpcMock.Json.Writer
import GrpcMock.Main
import GrpcMock.Mock.Branch
import GrpcMock.Mock.File
import GrpcMock.Mock.Server
import GrpcMock.Naming
import GrpcMock.Outcome
import GrpcMock.Payload.Message
import GrpcMock.Payload.Mismatch
import GrpcMock.Payload.Number
import GrpcMock.Payload.Single
import GrpcMock.Proofs.Base64
import GrpcMock.Proofs.Decimal.Integer
import GrpcMock.Proofs.Go.Literal
import GrpcMock.Proofs.Go.Rendering
import GrpcMock.Proofs.Lists
import GrpcMock.Proofs.Naming
import GrpcMock.Proofs.Payload.Conformance
import GrpcMock.Proofs.Payload.Encoding
import GrpcMock.Proofs.Payload.Fields
import GrpcMock.Proofs.Payload.Literal
import GrpcMock.Proofs.Payload.Members
import GrpcMock.Proofs.Payload.Message
import GrpcMock.Proofs.Payload.Single
import GrpcMock.Proofs.Proto.Acceptance
import GrpcMock.Proofs.Proto.Companions
import GrpcMock.Proofs.Proto.Compile
import GrpcMock.Proofs.Proto.Describes
import GrpcMock.Proofs.Proto.Identifiers
import GrpcMock.Proofs.Proto.Image
import GrpcMock.Proofs.Proto.Linking
import GrpcMock.Proofs.Proto.Names
import GrpcMock.Proofs.Proto.Nesting
import GrpcMock.Proofs.Proto.References
import GrpcMock.Proofs.Proto.Rules
import GrpcMock.Proofs.Proto.Scope
import GrpcMock.Proofs.Proto.Shadowing
import GrpcMock.Proofs.Proto.Written
import GrpcMock.Proofs.Schema.Conforms
import GrpcMock.Proofs.Schema.WellFormed
import GrpcMock.Proofs.Sorted
import GrpcMock.Proofs.Text.Ascii
import GrpcMock.Proofs.Text.Split
import GrpcMock.Proofs.Value.Floats
import GrpcMock.Proofs.Value.Keys
import GrpcMock.Proto.Body
import GrpcMock.Proto.Compile
import GrpcMock.Proto.Description
import GrpcMock.Proto.Expect
import GrpcMock.Proto.Fault
import GrpcMock.Proto.File
import GrpcMock.Proto.GoPackage
import GrpcMock.Proto.Lexeme
import GrpcMock.Proto.Link
import GrpcMock.Proto.Message
import GrpcMock.Proto.Nesting
import GrpcMock.Proto.Parse
import GrpcMock.Proto.Position
import GrpcMock.Proto.Rules
import GrpcMock.Proto.Scope
import GrpcMock.Proto.Token
import GrpcMock.Proto.Violation
import GrpcMock.Schema.Basic
import GrpcMock.Schema.Kind
import GrpcMock.Schema.Package
import GrpcMock.Sorted
import GrpcMock.StatusCode
import GrpcMock.Text.Blank
import GrpcMock.Text.Bytes
import GrpcMock.Text.CodeRange
import GrpcMock.Text.Digit
import GrpcMock.Text.Escaped
import GrpcMock.Text.Quoted
import GrpcMock.Text.Split
import GrpcMock.Text.Upper
import GrpcMock.Text.WordChar
import GrpcMock.Value.Basic
import GrpcMock.Value.Display
import GrpcMock.Yaml.Anchor
import GrpcMock.Yaml.Block
import GrpcMock.Yaml.Composition
import GrpcMock.Yaml.Cursor
import GrpcMock.Yaml.Gap
import GrpcMock.Yaml.Node
import GrpcMock.Yaml.Plain
import GrpcMock.Yaml.Quoted
import GrpcMock.Yaml.Reader
import GrpcMock.Yaml.Scalar
import GrpcMock.Yaml.Scanner
import GrpcMock.Yaml.Tag
import GrpcMock.Yaml.Token
import GrpcMock.Proofs.Payload.RoundTrip
import GrpcMock.Proofs.Go.Delimited
import GrpcMock.Proofs.Text.Quoted
import GrpcMock.Proofs.Go.Scalars
import GrpcMock.Proofs.Go.Items
import GrpcMock.Proofs.Go.Apart
import GrpcMock.Proofs.Go.Determined
import GrpcMock.Proofs.Go.Canonical
import GrpcMock.Proofs.Failure
import GrpcMock.Proofs.Contract.Order
import GrpcMock.Proofs.Go.Alike
import GrpcMock.Proofs.Payload.Failures
import GrpcMock.Proofs.Mock.Checks
import GrpcMock.Proofs.Mock.Sound
import GrpcMock.Proofs.Proto.Reading
import GrpcMock.Proofs.Proto.Unplaced
import GrpcMock.Proofs.Proto.Blind
import GrpcMock.Proofs.Proto.Placeless
import GrpcMock.Proofs.Proto.Lexeme
import GrpcMock.Proofs.Proto.Respacing
import GrpcMock.Proofs.Proto.Layout
import GrpcMock.Proofs.Text.CodeRange
import GrpcMock.Proofs.Proto.Source
import GrpcMock.Proofs.Proto.Grammar
import GrpcMock.Proofs.Go.Imports
import GrpcMock.Proofs.Proto.Skipped
import GrpcMock.Proofs.Proto.Places
import GrpcMock.Proofs.Proto.Presence
import GrpcMock.Proofs.Go.Shape
import GrpcMock.Proofs.Payload.Pointers
import GrpcMock.Proofs.Proto.GoNames
import GrpcMock.Proofs.Text.Lines
import GrpcMock.Proofs.Go.Mentions
import GrpcMock.Proofs.Go.Accounted
import GrpcMock.Proofs.Mock.Imports
import GrpcMock.Proofs.Proto.Lawful
import GrpcMock.Proofs.Proto.Reordering
import GrpcMock.Proofs.Go.OneLine
import GrpcMock.Proofs.Mock.Headings
import GrpcMock.Proofs.Proto.Services
import GrpcMock.Proofs.Mock.Declarations
import GrpcMock.Proofs.Proto.Resolution
import GrpcMock.Proofs.Mock.Verdicts
import GrpcMock.Proofs.Go.Offences
import GrpcMock.Proofs.Files
import GrpcMock.Proofs.CommandLine.Commands
import GrpcMock.Proofs.Respelling
import GrpcMock.Proofs.Proto.Ambiguity
import GrpcMock.Proofs.Proto.Arrangement
import GrpcMock.Proofs.Binary.Value
import GrpcMock.Proofs.Payload.Integers
import GrpcMock.Proofs.Proto.Braces
import GrpcMock.Proofs.Proto.Segments
import GrpcMock.Proofs.Proto.Stages
import GrpcMock.Proofs.Payload.Entries
import GrpcMock.Proofs.Base64.Canonical
import GrpcMock.Proofs.Proto.Lookup
import GrpcMock.Proofs.Payload.Bytes
import GrpcMock.Proofs.Go.StringLiteral
import GrpcMock.Proofs.Proto.QuotedOption
import GrpcMock.Proofs.Payload.Spellings
import GrpcMock.Proofs.Proto.Entries
import GrpcMock.Proofs.Mock.Identifiers
import GrpcMock.Proofs.Go.Asked
import GrpcMock.Proofs.Mock.Aliases
import GrpcMock.Proofs.Json.Tokens
import GrpcMock.Proofs.Json.RoundTrip
import GrpcMock.Proofs.Proto.Placement
import GrpcMock.Proofs.Proto.Description
import GrpcMock.Proofs.Value.Numbers
import GrpcMock.Proofs.Proto.Walk
import GrpcMock.Proofs.Proto.Following
import GrpcMock.Proofs.Proto.Progress
