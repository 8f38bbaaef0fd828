import StackScript.Bindings
import StackScript.Builtin
import StackScript.CommandLine.FileTree
import StackScript.CommandLine.Outcome
import StackScript.CommandLine.Run
import StackScript.CommandLine.Serve
import StackScript.CommandLine.Similarity
import StackScript.CommandLine.Usage
import StackScript.Console
import StackScript.Display
import StackScript.Editor
import StackScript.Editor.Assist
import StackScript.Editor.Coordinates
import StackScript.Editor.Diagnostic
import StackScript.Editor.Index
import StackScript.Editor.Recovery
import StackScript.Editor.Service
import StackScript.Editor.Word
import StackScript.Error
import StackScript.Evaluation
import StackScript.Instruction
import StackScript.Journal
import StackScript.Json
import StackScript.Json.Parser
import StackScript.Machine
import StackScript.Machine.Words
import StackScript.Main
import StackScript.Number.Binary
import StackScript.Number.Decimal
import StackScript.Number.Numeral
import StackScript.Number.Remainder
import StackScript.Number.Shortest
import StackScript.Number.Spelling
import StackScript.Proofs.AnsweredLines
import StackScript.Proofs.Balance
import StackScript.Proofs.BlankedRuns
import StackScript.Proofs.BoundNames
import StackScript.Proofs.Chunks
import StackScript.Proofs.DefinedNumbers
import StackScript.Proofs.Diagnosis
import StackScript.Proofs.Discipline
import StackScript.Proofs.DocumentLines
import StackScript.Proofs.Effects
import StackScript.Proofs.Entries
import StackScript.Proofs.EqualCode
import StackScript.Proofs.FailedSteps
import StackScript.Proofs.FiniteNumbers
import StackScript.Proofs.Frame
import StackScript.Proofs.Framing
import StackScript.Proofs.Growth
import StackScript.Proofs.Headroom
import StackScript.Proofs.HoverPlaces
import StackScript.Proofs.IndexedNames
import StackScript.Proofs.InlineCall
import StackScript.Proofs.Interruption
import StackScript.Proofs.Layout
import StackScript.Proofs.LexedTokens
import StackScript.Proofs.LexingLines
import StackScript.Proofs.Likeness
import StackScript.Proofs.MatchedBraces
import StackScript.Proofs.NearestPatterns
import StackScript.Proofs.NumberTokens
import StackScript.Proofs.NumeralGrammar
import StackScript.Proofs.NumeralValues
import StackScript.Proofs.OnePassRecovery
import StackScript.Proofs.OpenDocuments
import StackScript.Proofs.OutlineEntries
import StackScript.Proofs.Passage
import StackScript.Proofs.Past
import StackScript.Proofs.PrintedCode
import StackScript.Proofs.Programs
import StackScript.Proofs.Provenance
import StackScript.Proofs.Reachable
import StackScript.Proofs.ReaderErrors
import StackScript.Proofs.RenderedText
import StackScript.Proofs.ReportedPlaces
import StackScript.Proofs.Requests
import StackScript.Proofs.Sequencing
import StackScript.Proofs.Simulation
import StackScript.Proofs.SmallSteps
import StackScript.Proofs.SpacedTokens
import StackScript.Proofs.StackLayout
import StackScript.Proofs.StandingText
import StackScript.Proofs.TakenNames
import StackScript.Proofs.Tiling
import StackScript.Proofs.TokenGrammar
import StackScript.Proofs.TokenPlaces
import StackScript.Proofs.Traffic
import StackScript.Proofs.Unmentioned
import StackScript.Proofs.WrittenNumbers
import StackScript.Reading
import StackScript.Repl
import StackScript.Server
import StackScript.Server.Traffic
import StackScript.Session
import StackScript.Settings
import StackScript.Stack
import StackScript.Text.Blank
import StackScript.Text.Codes
import StackScript.Text.Controls
import StackScript.Text.Digit
import StackScript.Text.Lines
import StackScript.Text.Printable
import StackScript.Text.Quoted
import StackScript.Text.Utf8
import StackScript.Token
import StackScript.Token.Braces
import StackScript.Token.Lexer
import StackScript.Value
