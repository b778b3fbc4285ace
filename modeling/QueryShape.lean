import QueryShape.Code.Decoder
import QueryShape.Code.Encoder
import QueryShape.Code.Expr
import QueryShape.Code.Placeholder
import QueryShape.Code.Signature
import QueryShape.CommandLine.Arguments
import QueryShape.CommandLine.Help
import QueryShape.CommandLine.Options
import QueryShape.CommandLine.Run
import QueryShape.Converter.Basic
import QueryShape.Converter.Load
import QueryShape.Decimal.Layout
import QueryShape.Decimal.Shortest
import QueryShape.Document.Basic
import QueryShape.Document.BlockText
import QueryShape.Document.Collect
import QueryShape.Document.Location
import QueryShape.Document.Printer
import QueryShape.Document.Reader
import QueryShape.Document.Token
import QueryShape.Document.Typename
import QueryShape.Exchange.Request
import QueryShape.Exchange.Response
import QueryShape.Files.Archive
import QueryShape.Files.Inflate
import QueryShape.Files.Load
import QueryShape.Files.Tree
import QueryShape.Files.Write
import QueryShape.Generation.Generator
import QueryShape.Generation.Output
import QueryShape.Generation.Plan
import QueryShape.Generation.Resolve
import QueryShape.Generation.Select
import QueryShape.Generation.Session
import QueryShape.GenerationError
import QueryShape.Grammar.Expression
import QueryShape.Grammar.Formatted
import QueryShape.Grammar.Pattern
import QueryShape.Grammar.Statement
import QueryShape.Grammar.Token
import QueryShape.Hooks
import QueryShape.Json.Basic
import QueryShape.Json.Reader
import QueryShape.Json.Writer
import QueryShape.Letter.Casing
import QueryShape.Letter.Digit
import QueryShape.Letter.Identifier
import QueryShape.Letter.Printable
import QueryShape.Letter.Ranges
import QueryShape.Letter.Word
import QueryShape.Literal
import QueryShape.Main
import QueryShape.Module.Class
import QueryShape.Module.Layout
import QueryShape.Module.View
import QueryShape.NameSet
import QueryShape.Naming
import QueryShape.Program.Evaluate
import QueryShape.Program.Load
import QueryShape.Program.Send
import QueryShape.Program.Thing
import QueryShape.Proofs.Code.Layers
import QueryShape.Proofs.Converter.Standard
import QueryShape.Proofs.Document.Collect
import QueryShape.Proofs.Document.Names
import QueryShape.Proofs.Document.Typename
import QueryShape.Proofs.Files.Interrupted
import QueryShape.Proofs.Files.Package
import QueryShape.Proofs.Files.Tree
import QueryShape.Proofs.Generation.Abandoned
import QueryShape.Proofs.Generation.Alike
import QueryShape.Proofs.Generation.Changes
import QueryShape.Proofs.Generation.Execution
import QueryShape.Proofs.Generation.Faults
import QueryShape.Proofs.Generation.Fresh
import QueryShape.Proofs.Generation.Generate
import QueryShape.Proofs.Generation.InPlace
import QueryShape.Proofs.Generation.Independent
import QueryShape.Proofs.Generation.Inputs
import QueryShape.Proofs.Generation.Keys
import QueryShape.Proofs.Generation.LeafClasses
import QueryShape.Proofs.Generation.Members
import QueryShape.Proofs.Generation.Mirror
import QueryShape.Proofs.Generation.Narrow
import QueryShape.Proofs.Generation.Needs
import QueryShape.Proofs.Generation.Nesting
import QueryShape.Proofs.Generation.Pending
import QueryShape.Proofs.Generation.PerType
import QueryShape.Proofs.Generation.PlainNames
import QueryShape.Proofs.Generation.Plan
import QueryShape.Proofs.Generation.Recorded
import QueryShape.Proofs.Generation.Regenerate
import QueryShape.Proofs.Generation.Registrations
import QueryShape.Proofs.Generation.Remembered
import QueryShape.Proofs.Generation.Run
import QueryShape.Proofs.Generation.Sent
import QueryShape.Proofs.Generation.SentSets
import QueryShape.Proofs.Generation.Session
import QueryShape.Proofs.Generation.Steps
import QueryShape.Proofs.Generation.Survey
import QueryShape.Proofs.Generation.Traced
import QueryShape.Proofs.Generation.Valid
import QueryShape.Proofs.Grammar.Cuts
import QueryShape.Proofs.Grammar.Literal
import QueryShape.Proofs.Grammar.Package
import QueryShape.Proofs.Module.Literals
import QueryShape.Proofs.Module.Package
import QueryShape.Proofs.Naming.Accessor
import QueryShape.Proofs.Naming.Identifier
import QueryShape.Proofs.Naming.Leaf
import QueryShape.Proofs.Naming.Module
import QueryShape.Proofs.Naming.Snake
import QueryShape.Proofs.Program.Attributes
import QueryShape.Proofs.Program.Decode
import QueryShape.Proofs.Program.Decoding
import QueryShape.Proofs.Program.Definable
import QueryShape.Proofs.Program.Dispatch
import QueryShape.Proofs.Program.Encode
import QueryShape.Proofs.Program.Encoding
import QueryShape.Proofs.Program.EnumMembers
import QueryShape.Proofs.Program.Imports
import QueryShape.Proofs.Program.InputObjects
import QueryShape.Proofs.Program.Load
import QueryShape.Proofs.Program.Misses
import QueryShape.Proofs.Program.Operations
import QueryShape.Proofs.Program.Parameters
import QueryShape.Proofs.Program.Reach
import QueryShape.Proofs.Program.Reading
import QueryShape.Proofs.Program.References
import QueryShape.Proofs.Program.Resolution
import QueryShape.Proofs.Program.Response
import QueryShape.Proofs.Program.Serialize
import QueryShape.Proofs.Program.Templates
import QueryShape.Proofs.Program.Trees
import QueryShape.Proofs.Program.Typenames
import QueryShape.Proofs.Program.Usable
import QueryShape.Proofs.Program.Variables
import QueryShape.Proofs.Program.Ways
import QueryShape.Proofs.Record.Merge
import QueryShape.Proofs.Record.Turned
import QueryShape.Proofs.Record.Union
import QueryShape.Proofs.Registry.Growth
import QueryShape.Proofs.Registry.Order
import QueryShape.Proofs.Registry.Rounds
import QueryShape.Proofs.Registry.Sorting
import QueryShape.Proofs.Registry.Sound
import QueryShape.Proofs.Schema.Fields
import QueryShape.Proofs.Search
import QueryShape.Proofs.Validation.Conflicts
import QueryShape.Proofs.Validation.Context
import QueryShape.Proofs.Validation.Cycles
import QueryShape.Proofs.Validation.Places
import QueryShape.Proofs.Validation.Rules
import QueryShape.Proofs.Validation.Sent
import QueryShape.Proofs.Validation.Sets
import QueryShape.Record.Basic
import QueryShape.Record.Merge
import QueryShape.Registry.Basic
import QueryShape.Registry.Order
import QueryShape.Schema.Basic
import QueryShape.Schema.Constant
import QueryShape.Schema.OfDocument
import QueryShape.Schema.OfIntrospection
import QueryShape.Schema.Rules
import QueryShape.Schema.Sound
import QueryShape.Schema.Standard
import QueryShape.Text.LineEnds
import QueryShape.Text.Stretch
import QueryShape.Time.Basic
import QueryShape.Time.Reader
import QueryShape.Time.Writer
import QueryShape.Validation.Arguments
import QueryShape.Validation.Check
import QueryShape.Validation.Context
import QueryShape.Validation.Fields
import QueryShape.Validation.Fragments
import QueryShape.Validation.Operations
import QueryShape.Validation.Overlap
import QueryShape.Validation.Subscriptions
import QueryShape.Validation.Suggestion
import QueryShape.Validation.Values
import QueryShape.Validation.Visit
import QueryShape.Value.Basic
import QueryShape.Value.Number
import QueryShape.Value.Shown
