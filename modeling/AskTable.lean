import AskTable.Api.App
import AskTable.Api.Echo
import AskTable.Api.Question
import AskTable.Api.Response
import AskTable.Api.Route
import AskTable.Binary64.Basic
import AskTable.Binary64.Shortest
import AskTable.Bootstrap
import AskTable.Chat
import AskTable.Cli.Args
import AskTable.Cli.Command
import AskTable.Cli.Startup
import AskTable.Dialogue
import AskTable.Drafting
import AskTable.Engine.Certificate
import AskTable.Engine.ClickHouse
import AskTable.Engine.Executor
import AskTable.Engine.Rows
import AskTable.Engine.Sample
import AskTable.EnvFile
import AskTable.Error
import AskTable.Evals.Case
import AskTable.Evals.Report
import AskTable.Files
import AskTable.Http.Request
import AskTable.Http.Server
import AskTable.Intent.Basic
import AskTable.Intent.Phrase
import AskTable.Intent.Rule
import AskTable.Json.Basic
import AskTable.Json.Fault
import AskTable.Json.Printer
import AskTable.Json.Reader
import AskTable.Json.Schema
import AskTable.Log
import AskTable.Main
import AskTable.Prompt
import AskTable.Proofs.Api.Session
import AskTable.Proofs.Dialogue
import AskTable.Proofs.Engine.Executor
import AskTable.Proofs.Engine.Shared
import AskTable.Proofs.Intent.Acceptance
import AskTable.Proofs.Intent.Capture
import AskTable.Proofs.Intent.Template
import AskTable.Proofs.Sql.Grammar
import AskTable.Proofs.Sql.Token
import AskTable.Proofs.Sql.Verdict
import AskTable.Proofs.Text.Ascii
import AskTable.Proofs.Text.Search
import AskTable.Settings
import AskTable.Sql.Literal
import AskTable.Sql.Policy
import AskTable.Sql.Statement
import AskTable.Text.Basic
import AskTable.Text.Blank
import AskTable.Text.CodeRange
import AskTable.Text.LetterCase
import AskTable.Text.LetterCaseTable
import AskTable.Text.Numeral
import AskTable.Text.Utf8
import AskTable.Text.Visible
import AskTable.Text.VisibleTable
import AskTable.Text.Word
import AskTable.Text.WordTable
import AskTable.Wire
import AskTable.Proofs.Http.Framing
import AskTable.Proofs.Sql.Lex
import AskTable.Proofs.Sql.Tables
import AskTable.Proofs.Text.LetterCase
import AskTable.Proofs.Sql.Sentence
import AskTable.Proofs.Drafting
import AskTable.Proofs.Intent.Opening
import AskTable.Proofs.Engine.Sample
import AskTable.Proofs.Json.Record
import AskTable.Proofs.Api.Question
import AskTable.Proofs.Api.MockMode
import AskTable.Proofs.Api.Outcome
import AskTable.Proofs.Api.Provenance
import AskTable.Proofs.Sql.Disguise
import AskTable.Proofs.Text.Utf8
import AskTable.Proofs.Json.Number
import AskTable.Proofs.Json.Grammar
import AskTable.Proofs.Http.Head
import AskTable.Proofs.Http.Response
import AskTable.Proofs.Bootstrap
import AskTable.Proofs.Text.Trim
import AskTable.Proofs.Sql.Apart
import AskTable.Proofs.Sql.Cleaning
import AskTable.Proofs.Intent.Literal
import AskTable.Proofs.Api.Gates
import AskTable.Proofs.Intent.Phrase
import AskTable.Proofs.Intent.Priority
import AskTable.Proofs.Text.Line
import AskTable.Proofs.Intent.Country
import AskTable.Proofs.Intent.Amount
import AskTable.Proofs.Intent.Distinction
import AskTable.Proofs.Text.Caseless
import AskTable.Proofs.Intent.Margin
import AskTable.Proofs.Intent.Domain
import AskTable.Proofs.Intent.Wording
import AskTable.Proofs.Engine.Columns
import AskTable.Proofs.Text.Numeral
import AskTable.Proofs.Settings
import AskTable.Proofs.Http.Request
import AskTable.Proofs.Bootstrap.Replies
import AskTable.Proofs.Json.ReadBack
import AskTable.Proofs.Evals
import AskTable.Proofs.Prompt
import AskTable.Proofs.Http.Reading
import AskTable.Proofs.Json.Spelling
import AskTable.Proofs.Json.TextRecord
import AskTable.Proofs.Evals.Cases
