import ReqlLua.Attempt
import ReqlLua.Binding.Basic
import ReqlLua.Binding.MethodName
import ReqlLua.Binding.Wrapper
import ReqlLua.CommandLine
import ReqlLua.Dictionary
import ReqlLua.Event
import ReqlLua.Failure
import ReqlLua.Files.Path
import ReqlLua.Files.Tree
import ReqlLua.Generator
import ReqlLua.Job
import ReqlLua.Json.Fault
import ReqlLua.Json.Numeral
import ReqlLua.Json.Quoted
import ReqlLua.Json.Reading
import ReqlLua.Json.Record
import ReqlLua.Json.Skip
import ReqlLua.Lua.Blocks
import ReqlLua.Lua.Quoted
import ReqlLua.Main
import ReqlLua.Number.Binary64
import ReqlLua.Number.Notation
import ReqlLua.Number.Shortest
import ReqlLua.Number.Word
import ReqlLua.Proofs.Binding.Naming
import ReqlLua.Proofs.Binding.Resolution
import ReqlLua.Proofs.Binding.Rivals
import ReqlLua.Proofs.CommandLine.Arguments
import ReqlLua.Proofs.CommandLine.Outcome
import ReqlLua.Proofs.Dictionary
import ReqlLua.Proofs.Files.Effect
import ReqlLua.Proofs.Files.Place
import ReqlLua.Proofs.Files.Sibling
import ReqlLua.Proofs.Generator.FirstFailure
import ReqlLua.Proofs.Generator.Independence
import ReqlLua.Proofs.Generator.Inputs
import ReqlLua.Proofs.Generator.Moments
import ReqlLua.Proofs.Generator.Order
import ReqlLua.Proofs.Generator.Place
import ReqlLua.Proofs.Generator.Process
import ReqlLua.Proofs.Generator.Repetition
import ReqlLua.Proofs.Generator.Replacement
import ReqlLua.Proofs.Generator.Run
import ReqlLua.Proofs.Generator.Sequence
import ReqlLua.Proofs.Generator.Settled
import ReqlLua.Proofs.Generator.Turn
import ReqlLua.Proofs.Job
import ReqlLua.Proofs.Job.Deeds
import ReqlLua.Proofs.Job.Ends
import ReqlLua.Proofs.Job.Safe
import ReqlLua.Proofs.Job.Steps
import ReqlLua.Proofs.Json.Grammar
import ReqlLua.Proofs.Json.Integer
import ReqlLua.Proofs.Json.Literal
import ReqlLua.Proofs.Json.Members
import ReqlLua.Proofs.Json.Passing
import ReqlLua.Proofs.Json.Records
import ReqlLua.Proofs.Json.Refusal
import ReqlLua.Proofs.Json.Scalar
import ReqlLua.Proofs.Lua.Agreement
import ReqlLua.Proofs.Lua.Calling
import ReqlLua.Proofs.Lua.FewestLines
import ReqlLua.Proofs.Lua.Keyword
import ReqlLua.Proofs.Lua.Literal
import ReqlLua.Proofs.Lua.Packing
import ReqlLua.Proofs.Lua.Reading
import ReqlLua.Proofs.Lua.Recovery
import ReqlLua.Proofs.Lua.Syntax
import ReqlLua.Proofs.Lua.Table
import ReqlLua.Proofs.Protocol.Acceptance
import ReqlLua.Proofs.Protocol.Catalog
import ReqlLua.Proofs.Protocol.Layout
import ReqlLua.Proofs.Protocol.Listing
import ReqlLua.Proofs.Protocol.Lookup
import ReqlLua.Proofs.Protocol.RoundTrip
import ReqlLua.Proofs.Settings.Agreement
import ReqlLua.Proofs.Settings.Layering
import ReqlLua.Proofs.Template.Canonical
import ReqlLua.Proofs.Template.Closed
import ReqlLua.Proofs.Template.Grammar
import ReqlLua.Proofs.Template.Keyless
import ReqlLua.Proofs.Template.Lines
import ReqlLua.Proofs.Template.Scanning
import ReqlLua.Proofs.Template.Search
import ReqlLua.Proofs.Template.Settled
import ReqlLua.Proofs.Template.Splicing
import ReqlLua.Proofs.Text.Encoding
import ReqlLua.Proofs.Text.Lowercase
import ReqlLua.Proofs.Text.Splitting
import ReqlLua.Proofs.Text.Trim
import ReqlLua.Protocol.Catalog
import ReqlLua.Protocol.Definition
import ReqlLua.Protocol.Document
import ReqlLua.Protocol.Enumeration
import ReqlLua.Settings.Basic
import ReqlLua.Settings.Conversion
import ReqlLua.Settings.KeyPath
import ReqlLua.Settings.Layer
import ReqlLua.Settings.Load
import ReqlLua.Substitution
import ReqlLua.Template
import ReqlLua.Text.Blank
import ReqlLua.Text.Bytes
import ReqlLua.Text.CodeRange
import ReqlLua.Text.Decimal
import ReqlLua.Text.Lowercase
import ReqlLua.Text.Printable
import ReqlLua.Text.Quoted
import ReqlLua.Text.Read
import ReqlLua.Toml.Document
import ReqlLua.Toml.Key
import ReqlLua.Toml.Lexeme
import ReqlLua.Toml.Moment
import ReqlLua.Toml.Number
import ReqlLua.Toml.Quoted
import ReqlLua.Toml.Table
import ReqlLua.Toml.Value
import ReqlLua.Proofs.Binding.Histories
import ReqlLua.Proofs.Lua.TagOrder
import ReqlLua.Proofs.Template.Cursor
import ReqlLua.Proofs.Template.CursorRun
