import SchemaBundle.Build
import SchemaBundle.CommandLine.Grammar
import SchemaBundle.CommandLine.Reader
import SchemaBundle.CommandLine.Run
import SchemaBundle.Config.Basic
import SchemaBundle.Config.Reader
import SchemaBundle.Copying
import SchemaBundle.Decimal.Binary64
import SchemaBundle.Decimal.Literal
import SchemaBundle.Decimal.Power
import SchemaBundle.Decimal.Shortest
import SchemaBundle.Dict
import SchemaBundle.Document.Bundled
import SchemaBundle.Document.JsonSchema
import SchemaBundle.Failure
import SchemaBundle.Files.Disk
import SchemaBundle.Files.Path
import SchemaBundle.Files.Script
import SchemaBundle.Files.Tree
import SchemaBundle.Index
import SchemaBundle.Json.Basic
import SchemaBundle.Json.Location
import SchemaBundle.Json.Printer
import SchemaBundle.Json.Reader
import SchemaBundle.Main
import SchemaBundle.Naming.Distinct
import SchemaBundle.Naming.Normalized
import SchemaBundle.Naming.Pascal
import SchemaBundle.Naming.TypeName
import SchemaBundle.Reference.Basic
import SchemaBundle.Reference.Rewriting
import SchemaBundle.Reference.Scan
import SchemaBundle.Reference.Visitor
import SchemaBundle.Registry
import SchemaBundle.Resolution
import SchemaBundle.Schema.Basic
import SchemaBundle.Schema.Reading
import SchemaBundle.Site
import SchemaBundle.Template.Basic
import SchemaBundle.Template.Expression
import SchemaBundle.Template.Page
import SchemaBundle.Template.Reader
import SchemaBundle.Template.Rendering
import SchemaBundle.Text.Alphanumeric
import SchemaBundle.Text.Blank
import SchemaBundle.Text.CodePoints
import SchemaBundle.Text.Folding
import SchemaBundle.Text.Identifier
import SchemaBundle.Text.LetterCase
import SchemaBundle.Text.Quoted
import SchemaBundle.Toml.Basic
import SchemaBundle.Toml.Reader
import SchemaBundle.Toml.Scalar
import SchemaBundle.Toml.Text
import SchemaBundle.TypeScript.Basic
import SchemaBundle.TypeScript.Emission
import SchemaBundle.TypeScript.Printer
import SchemaBundle.Yaml.Character
import SchemaBundle.Yaml.Cursor
import SchemaBundle.Yaml.Document
import SchemaBundle.Yaml.Event
import SchemaBundle.Yaml.Properties
import SchemaBundle.Yaml.Reader
import SchemaBundle.Yaml.Scalar
import SchemaBundle.Yaml.ScalarText
import SchemaBundle.Yaml.Token
import SchemaBundle.Yaml.TokenStream
import SchemaBundle.Yaml.Writer
import SchemaBundle.Proofs.Resolution.Reachability
import SchemaBundle.Proofs.Resolution.Trace
import SchemaBundle.Proofs.Resolution.Closure
import SchemaBundle.Proofs.Resolution.Discovery
import SchemaBundle.Proofs.Json.Strings
import SchemaBundle.Proofs.Schema.Targets
import SchemaBundle.Proofs.Document.Definitions
import SchemaBundle.Proofs.Yaml.Place
import SchemaBundle.Proofs.Yaml.Separation
import SchemaBundle.Proofs.Yaml.QuotedText
import SchemaBundle.Proofs.Yaml.Scanning
import SchemaBundle.Proofs.Yaml.EventScalars
import SchemaBundle.Proofs.Yaml.LoadedStrings
import SchemaBundle.Proofs.Yaml.SourceText
import SchemaBundle.Proofs.Document.SelfContained
import SchemaBundle.Proofs.TypeScript.Nesting
import SchemaBundle.Proofs.Schema.Interface
import SchemaBundle.Proofs.TypeScript.Precedence
import SchemaBundle.Proofs.Naming.Distinct
import SchemaBundle.Proofs.Naming.Identifiers
import SchemaBundle.Proofs.TypeScript.References
import SchemaBundle.Proofs.TypeScript.Declarations
import SchemaBundle.Proofs.Files.Following
import SchemaBundle.Proofs.Files.Parent
import SchemaBundle.Proofs.Files.Effects
import SchemaBundle.Proofs.Files.Directories
import SchemaBundle.Proofs.Files.Saving
import SchemaBundle.Proofs.Build.Worker
import SchemaBundle.Proofs.Files.Interleaving
import SchemaBundle.Proofs.Files.Sameness
import SchemaBundle.Proofs.Files.Siblings
import SchemaBundle.Proofs.Build.Isolation
import SchemaBundle.Proofs.Build.Order
import SchemaBundle.Proofs.Resolution.Laws
import SchemaBundle.Proofs.Resolution.Locality
import SchemaBundle.Proofs.Document.Agreement
import SchemaBundle.Proofs.Document.Extraction
import SchemaBundle.Proofs.Files.Reading
import SchemaBundle.Proofs.Build.Outputs
import SchemaBundle.Proofs.Naming.FirstUnused
import SchemaBundle.Proofs.TypeScript.Strictness
import SchemaBundle.Proofs.Build.Strictness
import SchemaBundle.Proofs.Index
import SchemaBundle.Proofs.Build.Bindings
import SchemaBundle.Proofs.Files.Writing
import SchemaBundle.Proofs.Build.Inputs
import SchemaBundle.Proofs.Reference.Places
import SchemaBundle.Proofs.Reference.Rendered
import SchemaBundle.Proofs.TypeScript.Capture
import SchemaBundle.Proofs.Text.CodePoints
import SchemaBundle.Proofs.Naming.TypeNames
import SchemaBundle.Proofs.Reference.Rewriting
import SchemaBundle.Proofs.Reference.InPlace
import SchemaBundle.Proofs.Schema.Spelling
import SchemaBundle.Proofs.TypeScript.Spelling
import SchemaBundle.Proofs.Build.Types
import SchemaBundle.Proofs.Document.Frame
import SchemaBundle.Proofs.TypeScript.NormalForm
import SchemaBundle.Proofs.TypeScript.Marks
import SchemaBundle.Proofs.TypeScript.Inline
import SchemaBundle.Proofs.Files.WellFormed
import SchemaBundle.Proofs.Files.Listing
import SchemaBundle.Proofs.Files.Putting
import SchemaBundle.Proofs.Copying
import SchemaBundle.Proofs.Site
import SchemaBundle.Proofs.Reference.Preorder
import SchemaBundle.Proofs.Resolution.Rounds
import SchemaBundle.Proofs.TypeScript.Numbering
import SchemaBundle.Proofs.TypeScript.Comments
