import WireSchema.Bound.Binding
import WireSchema.Bound.Dump
import WireSchema.Bound.FieldBinding
import WireSchema.Bound.Model
import WireSchema.Bound.SettingBinding
import WireSchema.Bound.StructBinding
import WireSchema.Bound.TypeBinding
import WireSchema.Bson.Bytes
import WireSchema.Bson.Cursor
import WireSchema.Bson.Decoding
import WireSchema.Bson.Encoding
import WireSchema.Bson.Kind
import WireSchema.Bson.Sink
import WireSchema.Bson.Value
import WireSchema.Canvas.Draw
import WireSchema.Canvas.Layer
import WireSchema.Canvas.Note
import WireSchema.Canvas.Service
import WireSchema.Canvas.Shape
import WireSchema.Command.Line
import WireSchema.Command.Run
import WireSchema.Emit.Declaration
import WireSchema.Emit.Decoder
import WireSchema.Emit.Encoder
import WireSchema.Emit.Enumeration
import WireSchema.Emit.Error
import WireSchema.Emit.File
import WireSchema.Emit.Flavour
import WireSchema.Emit.Name
import WireSchema.Emit.Setting
import WireSchema.Emit.SettingName
import WireSchema.Emit.Storage
import WireSchema.Emit.Tracking
import WireSchema.Emit.Value
import WireSchema.Emit.Writer
import WireSchema.Evolution.Check
import WireSchema.Evolution.Comparison
import WireSchema.Evolution.Incompatibility
import WireSchema.Evolution.Walk
import WireSchema.Files.Change
import WireSchema.Files.Compilation
import WireSchema.Files.Evolution
import WireSchema.Files.Output
import WireSchema.Files.Path
import WireSchema.Files.Source
import WireSchema.Files.Tree
import WireSchema.Main
import WireSchema.Number.Double
import WireSchema.Number.Hex
import WireSchema.Number.Integer
import WireSchema.Number.Reading
import WireSchema.Number.Shortest
import WireSchema.Proofs.Bound.Codecs
import WireSchema.Proofs.Bound.Comparison
import WireSchema.Proofs.Bound.Declared
import WireSchema.Proofs.Bound.Fields
import WireSchema.Proofs.Bound.Layout
import WireSchema.Proofs.Bound.Names
import WireSchema.Proofs.Bound.Reordering
import WireSchema.Proofs.Bound.Spelling
import WireSchema.Proofs.Bound.Structs
import WireSchema.Proofs.Bound.WellFormed
import WireSchema.Proofs.Bson.Bytes
import WireSchema.Proofs.Bson.Decoding
import WireSchema.Proofs.Bson.Encodable
import WireSchema.Proofs.Bson.Indexed
import WireSchema.Proofs.Bson.Inside
import WireSchema.Proofs.Bson.Items
import WireSchema.Proofs.Bson.Levels
import WireSchema.Proofs.Bson.Nesting
import WireSchema.Proofs.Bson.Reads
import WireSchema.Proofs.Bson.RoundTrip
import WireSchema.Proofs.Bson.Slots
import WireSchema.Proofs.Canvas.Arrays
import WireSchema.Proofs.Canvas.Comparison
import WireSchema.Proofs.Canvas.Drawing
import WireSchema.Proofs.Canvas.Lifetimes
import WireSchema.Proofs.Canvas.Parts
import WireSchema.Proofs.Canvas.Records
import WireSchema.Proofs.Canvas.Repeats
import WireSchema.Proofs.Canvas.RoundTrip
import WireSchema.Proofs.Emit.Constants
import WireSchema.Proofs.Emit.Elements
import WireSchema.Proofs.Emit.Generation
import WireSchema.Proofs.Emit.Validation
import WireSchema.Proofs.Evolution.Commands
import WireSchema.Proofs.Evolution.Coverage
import WireSchema.Proofs.Evolution.Descent
import WireSchema.Proofs.Evolution.Diagonal
import WireSchema.Proofs.Evolution.Duality
import WireSchema.Proofs.Evolution.Enumerations
import WireSchema.Proofs.Evolution.Leaves
import WireSchema.Proofs.Evolution.Replies
import WireSchema.Proofs.Evolution.Requests
import WireSchema.Proofs.Evolution.Unchanged
import WireSchema.Proofs.Files.Imports
import WireSchema.Proofs.Files.Places
import WireSchema.Proofs.Files.Relative
import WireSchema.Proofs.Files.Writing
import WireSchema.Proofs.Outcome
import WireSchema.Proofs.Record.Arrays
import WireSchema.Proofs.Record.Columns
import WireSchema.Proofs.Record.Decoders
import WireSchema.Proofs.Record.Namespaces
import WireSchema.Proofs.Record.Ordered
import WireSchema.Proofs.Record.Parts
import WireSchema.Proofs.Record.Reading
import WireSchema.Proofs.Record.Strict
import WireSchema.Proofs.Record.Structural
import WireSchema.Proofs.Schema.Additions
import WireSchema.Proofs.Schema.Declarations
import WireSchema.Proofs.Schema.DefinedNames
import WireSchema.Proofs.Schema.Imports
import WireSchema.Proofs.Schema.Merging
import WireSchema.Proofs.Schema.Reading
import WireSchema.Proofs.Schema.Report
import WireSchema.Proofs.Schema.Requests
import WireSchema.Proofs.Schema.Table
import WireSchema.Proofs.Settings.Migration
import WireSchema.Proofs.Settings.Redaction
import WireSchema.Proofs.Settings.Registration
import WireSchema.Proofs.Settings.Registry
import WireSchema.Proofs.Settings.Sections
import WireSchema.Proofs.Settings.Stored
import WireSchema.Proofs.Settings.Validation
import WireSchema.Proofs.Source.Grammar
import WireSchema.Proofs.Source.Lexeme
import WireSchema.Proofs.Source.Matching
import WireSchema.Proofs.Source.Pattern
import WireSchema.Proofs.Source.Quoting
import WireSchema.Proofs.Source.Rendering
import WireSchema.Proofs.Source.Scanning
import WireSchema.Proofs.Source.Spacing
import WireSchema.Proofs.Source.Tokens
import WireSchema.Proofs.Source.Trees
import WireSchema.Proofs.Source.Unplaced
import WireSchema.Proofs.Text.Casing
import WireSchema.Proofs.Text.Identifier
import WireSchema.Record.Context
import WireSchema.Record.Fault
import WireSchema.Record.Namespace
import WireSchema.Record.Reader
import WireSchema.Record.Request
import WireSchema.Record.Slot
import WireSchema.Record.Structural
import WireSchema.Schema.Definition
import WireSchema.Schema.Diagnostic
import WireSchema.Schema.Dump
import WireSchema.Schema.Import
import WireSchema.Schema.Reading
import WireSchema.Schema.SymbolTable
import WireSchema.Schema.WireType
import WireSchema.Settings.Environment
import WireSchema.Settings.Kind
import WireSchema.Settings.Option
import WireSchema.Settings.Parameter
import WireSchema.Settings.Registry
import WireSchema.Source.Lexeme
import WireSchema.Source.Node
import WireSchema.Source.Token
import WireSchema.Text.Blank
import WireSchema.Text.Casing
import WireSchema.Text.CharRange
import WireSchema.Text.DecimalDigit
import WireSchema.Text.Hidden
import WireSchema.Text.Json
import WireSchema.Text.LetterCase
import WireSchema.Text.ListOrder
import WireSchema.Text.NameMap
import WireSchema.Text.Quoted
import WireSchema.Text.Trim
import WireSchema.Text.WordChar
