import Scriptlet.Text.Ranges
import Scriptlet.Text.Letter
import Scriptlet.Text.Digit
import Scriptlet.Text.Printable
import Scriptlet.Text.Blank
import Scriptlet.Text.Line
import Scriptlet.Text.Quoted
import Scriptlet.Numeral
import Scriptlet.Position
import Scriptlet.ValueType
import Scriptlet.LangError
import Scriptlet.Diagnostic
import Scriptlet.Failure
import Scriptlet.Token
import Scriptlet.Token.Gap
import Scriptlet.Token.StringBody
import Scriptlet.Token.Lexeme
import Scriptlet.Token.Stream
import Scriptlet.Keyed
import Scriptlet.Expr
import Scriptlet.Expr.Print
import Scriptlet.Expr.Outline
import Scriptlet.Expr.Same
import Scriptlet.Expr.Reading
import Scriptlet.Expr.Cursor
import Scriptlet.Value
import Scriptlet.Scope
import Scriptlet.Note
import Scriptlet.Machine
import Scriptlet.Builtin
import Scriptlet.Builtin.Standard
import Scriptlet.Settings
import Scriptlet.Eval
import Scriptlet.Program
import Scriptlet.Session
import Scriptlet.CommandLine.Arguments
import Scriptlet.CommandLine.Files
import Scriptlet.CommandLine.Commands
import Scriptlet.Main
import Scriptlet.Proofs.Evaluation.Rules
import Scriptlet.Proofs.Evaluation.Agreement
import Scriptlet.Proofs.Evaluation.Division
import Scriptlet.Proofs.Grammar.Derivation
import Scriptlet.Proofs.Grammar.Soundness
import Scriptlet.Proofs.Grammar.Completeness
import Scriptlet.Proofs.Scanning.Lexed
import Scriptlet.Proofs.Scanning.Spelling
import Scriptlet.Proofs.Grammar.Bare
import Scriptlet.Proofs.Printing.Strings
import Scriptlet.Proofs.Printing.Layout
import Scriptlet.Proofs.Printing.Reread
import Scriptlet.Proofs.Printing.Relaid
import Scriptlet.Proofs.Evaluation.Visits
import Scriptlet.Proofs.Evaluation.Refusals
import Scriptlet.Proofs.Evaluation.Statements
import Scriptlet.Proofs.Evaluation.Strictness
import Scriptlet.Proofs.Evaluation.CallLimit
import Scriptlet.Proofs.Safety.Domain
import Scriptlet.Proofs.Safety.Regular
import Scriptlet.Proofs.Grammar.Nodes
import Scriptlet.Proofs.Printing.Slices
import Scriptlet.Proofs.Safety.Standard
import Scriptlet.Proofs.Scanning.Faults
import Scriptlet.Proofs.Evaluation.Runs
import Scriptlet.Proofs.Safety.Run
import Scriptlet.Proofs.Evaluation.Steps
import Scriptlet.Proofs.Evaluation.Ending
import Scriptlet.Proofs.Evaluation.History
import Scriptlet.Proofs.Evaluation.Frames
import Scriptlet.Proofs.Evaluation.Confinement
import Scriptlet.Proofs.Scanning.Trivia
import Scriptlet.Proofs.Scanning.Decoding
import Scriptlet.Proofs.Scanning.Tiling
import Scriptlet.Proofs.Scanning.Locality
import Scriptlet.Proofs.Scanning.Stretches
import Scriptlet.Proofs.Grammar.Stuck
import Scriptlet.Proofs.Grammar.Stopping
import Scriptlet.Proofs.Grammar.Earliest
import Scriptlet.Proofs.Evaluation.Erasure
import Scriptlet.Proofs.Evaluation.Blindness
import Scriptlet.Proofs.Evaluation.Twins
import Scriptlet.Proofs.Grammar.Causes
import Scriptlet.Proofs.Scanning.Restart
import Scriptlet.Proofs.Printing.Joined
import Scriptlet.Proofs.Evaluation.Joined
import Scriptlet.Proofs.Diagnostics.Lines
import Scriptlet.Proofs.Diagnostics.Marks
import Scriptlet.Proofs.Diagnostics.Reports
import Scriptlet.Proofs.Scanning.Progress
import Scriptlet.Proofs.Evaluation.Executed
import Scriptlet.Proofs.CommandLine.Listing
import Scriptlet.Proofs.CommandLine.FrontEnds
import Scriptlet.Proofs.Safety.Handles
import Scriptlet.Proofs.Safety.Sessions
import Scriptlet.Proofs.Grammar.Indexed
import Scriptlet.Proofs.Grammar.HandBuilt
import Scriptlet.Proofs.Scanning.StringLiterals
import Scriptlet.Proofs.Scanning.Comments
import Scriptlet.Proofs.Conversion.Numerals
import Scriptlet.Proofs.Conversion.Integers
import Scriptlet.Proofs.Conversion.Settings
import Scriptlet.Proofs.Printing.Legible
import Scriptlet.Proofs.Printing.Outlines
