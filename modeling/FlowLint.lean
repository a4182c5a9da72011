import FlowLint.Source
import FlowLint.Text.Class
import FlowLint.Script.Concrete
import FlowLint.Text.Digit
import FlowLint.Number.Binary64
import FlowLint.Number.Decimal
import FlowLint.Number.Reading
import FlowLint.Script.Literal
import FlowLint.Script.Tree
import FlowLint.Script.Convert
import FlowLint.Script.Unit
import FlowLint.Text.Fold
import FlowLint.Text.Printable
import FlowLint.Json.Value
import FlowLint.Json.Reader
import FlowLint.Json.Writer
import FlowLint.Line
import FlowLint.Suppression
import FlowLint.Fault
import FlowLint.Json.Convert
import FlowLint.Issue.Kind
import FlowLint.Issue
import FlowLint.Log
import FlowLint.Host
import FlowLint.Scope
import FlowLint.Rule.Remark
import FlowLint.Rule.Tree
import FlowLint.Rule.Line
import FlowLint.Rule
import FlowLint.Detect
import FlowLint.Number.Arithmetic
import FlowLint.Number.Mixed
import FlowLint.Quality.Impact
import FlowLint.Quality.Record
import FlowLint.Quality.Complexity
import FlowLint.Quality.Score
import FlowLint.Quality.Grade
import FlowLint.Report.Text
import FlowLint.Report.Alert
import FlowLint.Flow
import FlowLint.Store.Timestamp
import FlowLint.Store.Cell
import FlowLint.Store.Row
import FlowLint.Store
import FlowLint.Store.Session
import FlowLint.Webhook
import FlowLint.Scan
import FlowLint.Text.Case
import FlowLint.Service.Settings
import FlowLint.Service.Request
import FlowLint.Service.Handler
import FlowLint.Program.Reader.Cursor
import FlowLint.Program.Reader.Semicolon
import FlowLint.Program.Reader.Token
import FlowLint.Program.Reader.Pattern
import FlowLint.Program.Reader.Grammar
import FlowLint.Program.Reader.Expression
import FlowLint.Program.Reader.Element
import FlowLint.Program.Reader.Statement
import FlowLint.Program.Reader
import FlowLint.Program
import FlowLint.Program.Files
import FlowLint.Program.Validation
import FlowLint.Program.Request
import FlowLint.Service.Page
import FlowLint.Service
import FlowLint.Proofs.Resolution
import FlowLint.Proofs.Survey
import FlowLint.Proofs.Walk
import FlowLint.Proofs.Occurrences
import FlowLint.Proofs.Conversion
import FlowLint.Proofs.Units
import FlowLint.Proofs.Lookup
import FlowLint.Proofs.Scope
import FlowLint.Proofs.Findings
import FlowLint.Proofs.Rules
import FlowLint.Proofs.Directives
import FlowLint.Proofs.Lines
import FlowLint.Proofs.BlankRuns
import FlowLint.Proofs.CommentRuns
import FlowLint.Proofs.Wrapper
import FlowLint.Proofs.Rereading
import FlowLint.Proofs.Positions
import FlowLint.Proofs.Shift
import FlowLint.Proofs.NextLine
import FlowLint.Proofs.Exact
import FlowLint.Proofs.ScoreBounds
import FlowLint.Proofs.Worsening
import FlowLint.Proofs.Literals
import FlowLint.Proofs.Transactions
import FlowLint.Proofs.Rounding
import FlowLint.Proofs.Magnitude
import FlowLint.Proofs.Totality
import FlowLint.Proofs.Matches
import FlowLint.Proofs.Appending
import FlowLint.Proofs.Collaborators
import FlowLint.Proofs.Effects
import FlowLint.Proofs.Stored
import FlowLint.Proofs.Journal
import FlowLint.Proofs.History
import FlowLint.Proofs.Consistency
import FlowLint.Proofs.Exclusion
import FlowLint.Proofs.Returns
import FlowLint.Proofs.Reads
import FlowLint.Proofs.Signs
import FlowLint.Proofs.Intake
import FlowLint.Proofs.Decoding
import FlowLint.Proofs.Rescoring
import FlowLint.Proofs.Calendar
import FlowLint.Proofs.Moments
import FlowLint.Proofs.Retention
import FlowLint.Proofs.FirstSeen
import FlowLint.Proofs.Shares
import FlowLint.Proofs.Overflow
import FlowLint.Proofs.Accounting
import FlowLint.Proofs.Grouping
import FlowLint.Proofs.Rearrangement
import FlowLint.Proofs.Numerals
import FlowLint.Proofs.Escapes
import FlowLint.Proofs.Spellings
import FlowLint.Proofs.NumberTexts
import FlowLint.Proofs.SavedIssues
