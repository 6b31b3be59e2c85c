import WindowLang.Text.Ranges
import WindowLang.Text.Alphanumeric
import WindowLang.Text.Blank
import WindowLang.Text.Lines
import WindowLang.Text.Numeral
import WindowLang.Text.Unprintable
import WindowLang.Text.Quoted
import WindowLang.Token.Kind
import WindowLang.Token.Basic
import WindowLang.Token.Lexeme
import WindowLang.Token.Lexer
import WindowLang.Token.Listing
import WindowLang.Token.Normal
import WindowLang.Token.Raw
import WindowLang.Token.Shape
import WindowLang.Tree.Basic
import WindowLang.Tree.Call
import WindowLang.Tree.Normal
import WindowLang.Tree.Replay
import WindowLang.Tree.Tokens
import WindowLang.Grammar.Event
import WindowLang.Grammar.SyntaxError
import WindowLang.Grammar.Production
import WindowLang.Grammar.Document
import WindowLang.Grammar.Agenda
import WindowLang.Grammar.Derivation
import WindowLang.Grammar.Nesting
import WindowLang.Grammar.Watched
import WindowLang.Grammar.InPlace
import WindowLang.Grammar.Walk
import WindowLang.Grammar.Openings
import WindowLang.Grammar.Matching
import WindowLang.Json.Basic
import WindowLang.Json.Printer
import WindowLang.Json.Reader
import WindowLang.Json.Spelling
import WindowLang.Json.Token
import WindowLang.Json.Window
import WindowLang.Json.Decode
import WindowLang.Outline.Line
import WindowLang.Outline.Renderer
import WindowLang.Outline.Counting
import WindowLang.Outline.Tree
import WindowLang.Journal.Level
import WindowLang.Journal.Filter
import WindowLang.Journal.FilterText
import WindowLang.Journal.Record
import WindowLang.Journal.Logger
import WindowLang.Journal.Stripping
import WindowLang.Source.Folder
import WindowLang.Source.Loading
import WindowLang.CommandLine.Arguments
import WindowLang.CommandLine.Run
import WindowLang.CommandLine.Watched
import WindowLang.Main
import WindowLang.Proofs.Agenda.Run
import WindowLang.Proofs.Production.Outcome
import WindowLang.Proofs.Production.Composition
import WindowLang.Proofs.Production.Terminals
import WindowLang.Proofs.Production.Parts
import WindowLang.Proofs.Production.Bodies
import WindowLang.Proofs.Production.Items
import WindowLang.Proofs.Production.Contract
import WindowLang.Proofs.Production.Repetition
import WindowLang.Proofs.Production.Watching
import WindowLang.Proofs.Document.Choice
import WindowLang.Proofs.Document.Widgets
import WindowLang.Proofs.Document.Recognition
import WindowLang.Proofs.Document.Contract
import WindowLang.Proofs.Document.InPlace
import WindowLang.Proofs.Document.StateContract
import WindowLang.Proofs.Agenda.Completion
import WindowLang.Proofs.Document.Acceptance
import WindowLang.Proofs.Document.ErrorPosition
import WindowLang.Proofs.Document.Locality
import WindowLang.Proofs.Agenda.OpenBodies
import WindowLang.Proofs.Agenda.Containers
import WindowLang.Proofs.Agenda.Locality
import WindowLang.Proofs.Agenda.Unusable
import WindowLang.Proofs.Agenda.Shape
import WindowLang.Proofs.Document.Diagnostic
import WindowLang.Proofs.Document.Nesting
import WindowLang.Proofs.Lexing.Cutting
import WindowLang.Proofs.Lexing.RawLexemes
import WindowLang.Proofs.Lexing.Steps
import WindowLang.Proofs.Lexing.Separation
import WindowLang.Proofs.Lexing.Streams
import WindowLang.Proofs.Lexing.Modes
import WindowLang.Proofs.Lexing.Conservation
import WindowLang.Proofs.Lexing.Strictness
import WindowLang.Proofs.Document.Strictness
import WindowLang.Proofs.Lexing.Rereading
import WindowLang.Proofs.Source.Normality
import WindowLang.Proofs.Source.Derivations
import WindowLang.Proofs.Source.Segments
import WindowLang.Proofs.Source.RoundTrip
import WindowLang.Proofs.Source.Encoding
import WindowLang.Proofs.Text.Quoting
import WindowLang.Proofs.Text.Records
import WindowLang.Proofs.Outline.Captions
import WindowLang.Proofs.Outline.Rendering
import WindowLang.Proofs.Outline.Rows
import WindowLang.Proofs.Outline.Drawing
import WindowLang.Proofs.Outline.Limits
import WindowLang.Proofs.Tree.Calls
import WindowLang.Proofs.CommandLine.Composition
import WindowLang.Proofs.CommandLine.Noninterference
import WindowLang.Proofs.Document.Slips
import WindowLang.Proofs.Trace.Openings
import WindowLang.Proofs.Trace.Noting
import WindowLang.Proofs.Trace.Bodies
import WindowLang.Proofs.Trace.Widgets
import WindowLang.Proofs.Document.Trace
import WindowLang.Proofs.Json.Layouts
import WindowLang.Proofs.Json.Reading
import WindowLang.Proofs.Json.Decoding
import WindowLang.Proofs.Token.Listing
import WindowLang.Proofs.Lexing.Keeping
import WindowLang.Proofs.Outline.Counting
