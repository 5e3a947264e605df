import RecordSchema.Calendar
import RecordSchema.CommandLine.Arguments
import RecordSchema.CommandLine.Overview
import RecordSchema.CommandLine.Run
import RecordSchema.Descriptor
import RecordSchema.Descriptor.Bundle
import RecordSchema.Document.Compile
import RecordSchema.Document.Fault
import RecordSchema.Document.Load
import RecordSchema.Error
import RecordSchema.Files.Atomic
import RecordSchema.Files.Path
import RecordSchema.Files.Tree
import RecordSchema.Frame.Basic
import RecordSchema.Frame.Records
import RecordSchema.Hash.Sha256
import RecordSchema.Json.Reader
import RecordSchema.Json.Writer
import RecordSchema.Main
import RecordSchema.Model.Basic
import RecordSchema.Model.Check
import RecordSchema.Model.Moment
import RecordSchema.Model.Outcome
import RecordSchema.Model.Output
import RecordSchema.Model.Rule
import RecordSchema.Model.Scalar
import RecordSchema.Name
import RecordSchema.Number.Binary64
import RecordSchema.Number.Decimal
import RecordSchema.Number.Numeral
import RecordSchema.Number.Ratio
import RecordSchema.Number.Shortest
import RecordSchema.Number.Word
import RecordSchema.Record.Block
import RecordSchema.Record.Body
import RecordSchema.Record.Class
import RecordSchema.Record.Construction
import RecordSchema.Record.Member
import RecordSchema.Refusal
import RecordSchema.Schema.Accumulator
import RecordSchema.Schema.Basic
import RecordSchema.Schema.Builder
import RecordSchema.Schema.Field
import RecordSchema.Session.Annotation
import RecordSchema.Session.Attributes
import RecordSchema.Session.Basic
import RecordSchema.Session.Blocks
import RecordSchema.Session.Change
import RecordSchema.Session.Profile
import RecordSchema.Session.Property
import RecordSchema.Session.Records
import RecordSchema.Settings.Basic
import RecordSchema.Settings.EnvironmentFile
import RecordSchema.Settings.Load
import RecordSchema.Settings.Loose
import RecordSchema.Text.Blank
import RecordSchema.Text.Casing
import RecordSchema.Text.Digits
import RecordSchema.Text.Identifier
import RecordSchema.Text.IdentifierTable
import RecordSchema.Text.Lines
import RecordSchema.Text.Printable
import RecordSchema.Text.PrintableTable
import RecordSchema.Text.Quoted
import RecordSchema.Text.Ranges
import RecordSchema.Text.Template
import RecordSchema.Text.Utf8
import RecordSchema.Text.WordTable
import RecordSchema.Toml.Reader
import RecordSchema.Toml.Scalar
import RecordSchema.TypeTerm.Column
import RecordSchema.TypeTerm.Construction
import RecordSchema.TypeTerm.Evaluation
import RecordSchema.TypeTerm.Expression
import RecordSchema.TypeTerm.Lexeme
import RecordSchema.TypeTerm.Rendering
import RecordSchema.TypeTerm.Repetition
import RecordSchema.TypeTerm.Widening
import RecordSchema.Value.Arithmetic
import RecordSchema.Value.Basic
import RecordSchema.Value.Conversion
import RecordSchema.Value.Equality
import RecordSchema.Value.Fault
import RecordSchema.Value.Kind
import RecordSchema.Value.Making
import RecordSchema.Value.Printing
import RecordSchema.Value.Sharing
import RecordSchema.Yaml.Base64
import RecordSchema.Yaml.Cursor
import RecordSchema.Yaml.Node
import RecordSchema.Yaml.Reader
import RecordSchema.Yaml.Scalar
import RecordSchema.Yaml.Token
import RecordSchema.Yaml.TokenStream
import RecordSchema.Proofs.Report
import RecordSchema.Proofs.Text.Identifier
import RecordSchema.Proofs.Block.Naming
import RecordSchema.Proofs.Block.Declaration
import RecordSchema.Proofs.Block.Calls
import RecordSchema.Proofs.Block.Phases
import RecordSchema.Proofs.Block.Failure
import RecordSchema.Proofs.Block.Emission
import RecordSchema.Proofs.Block.Sequence
import RecordSchema.Proofs.Block.Collection
import RecordSchema.Proofs.Block.Variation
import RecordSchema.Proofs.Document.Blocks
import RecordSchema.Proofs.Document.Fields
import RecordSchema.Proofs.Document.Strictness
import RecordSchema.Proofs.Readers.Basic
import RecordSchema.Proofs.FrontEnds
import RecordSchema.Proofs.Readers.Json
import RecordSchema.Proofs.Readers.Toml
import RecordSchema.Proofs.Readers.Tokens
import RecordSchema.Proofs.Readers.Yaml
import RecordSchema.Proofs.Document.Loading
import RecordSchema.Proofs.Record.Class
import RecordSchema.Proofs.Record.Making
import RecordSchema.Proofs.Sequences
import RecordSchema.Proofs.Value.Data
import RecordSchema.Proofs.Value.Alike
import RecordSchema.Proofs.TypeTerm.Text
import RecordSchema.Proofs.TypeTerm.Union
import RecordSchema.Proofs.TypeTerm.Column
import RecordSchema.Proofs.TypeTerm.Rendering
import RecordSchema.Proofs.Session.Annotation
import RecordSchema.Proofs.Json.Sorting
import RecordSchema.Proofs.Json.Scalars
import RecordSchema.Proofs.Json.Texts
import RecordSchema.Proofs.Json.RoundTrip
import RecordSchema.Proofs.Json.Order
import RecordSchema.Proofs.Json.Grammar
import RecordSchema.Proofs.Json.Numbers
import RecordSchema.Proofs.Json.Conformance
import RecordSchema.Proofs.Number.Shortest
import RecordSchema.Proofs.Text.Utf8
import RecordSchema.Proofs.Files.Places
import RecordSchema.Proofs.Files.Writing
import RecordSchema.Proofs.Descriptor.Canonical
import RecordSchema.Proofs.Descriptor.Reading
import RecordSchema.Proofs.Descriptor.Fingerprint
import RecordSchema.Proofs.Descriptor.Export
import RecordSchema.Proofs.Descriptor.Conformance
import RecordSchema.Proofs.Settings.Reading
import RecordSchema.Proofs.Settings.Precedence
import RecordSchema.Proofs.Settings.Merging
import RecordSchema.Proofs.Settings.Selection
import RecordSchema.Proofs.Document.Refusal
import RecordSchema.Proofs.CommandLine.Commands
import RecordSchema.Proofs.CommandLine.Exit
import RecordSchema.Proofs.Session.Acts
import RecordSchema.Proofs.Record.Ordinary
import RecordSchema.Proofs.Record.Construction
import RecordSchema.Proofs.Files.AllOrNothing
import RecordSchema.Proofs.Files.Frame
import RecordSchema.Proofs.Files.Passage
import RecordSchema.Proofs.Frame.RoundTrip
import RecordSchema.Proofs.Value.Contents
import RecordSchema.Proofs.TypeTerm.Primitive
import RecordSchema.Proofs.Model.Output
import RecordSchema.Proofs.Model.Projection
import RecordSchema.Proofs.Model.Agreement
import RecordSchema.Proofs.TypeTerm.Widened
import RecordSchema.Proofs.Session.Widening
import RecordSchema.Proofs.Record.Signature
import RecordSchema.Proofs.Record.Replacing
import RecordSchema.Proofs.TypeTerm.NamedUnion
import RecordSchema.Proofs.TypeTerm.OptionalText
import RecordSchema.Proofs.Descriptor.Summary
import RecordSchema.Proofs.Descriptor.RoundTrip
import RecordSchema.Proofs.Descriptor.Coherence
import RecordSchema.Proofs.Descriptor.Portable
import RecordSchema.Proofs.Descriptor.Reordering
import RecordSchema.Proofs.Descriptor.Order
import RecordSchema.Proofs.Block.Leaving
import RecordSchema.Proofs.Block.Annotation
import RecordSchema.Proofs.Frame.Reading
import RecordSchema.Proofs.Text.Quoted
import RecordSchema.Proofs.TypeTerm.Literal
import RecordSchema.Proofs.Json.Context
import RecordSchema.Proofs.Descriptor.Annotation
import RecordSchema.Proofs.Block.Accumulation
