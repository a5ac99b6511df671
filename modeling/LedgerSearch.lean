import LedgerSearch.Text.Blank
import LedgerSearch.Text.Digit
import LedgerSearch.Text.Case
import LedgerSearch.Text.Quoted
import LedgerSearch.Text.Integer
import LedgerSearch.Text.Split
import LedgerSearch.Decimal.Notation
import LedgerSearch.Calendar.Notation
import LedgerSearch.Query.Lexer
import LedgerSearch.Operator.Registry
import LedgerSearch.Document.Checked
import LedgerSearch.Filter.Document
import LedgerSearch.Lookup.Catalogue
import LedgerSearch.Search
import LedgerSearch.Sql.Transactions
import LedgerSearch.Document.Json
import LedgerSearch.Database.Lookup
import LedgerSearch.LogLevel
import LedgerSearch.Settings
import LedgerSearch.CommandLine.Run
import LedgerSearch.Main
import LedgerSearch.Proofs.Query.Parsing
import LedgerSearch.Proofs.Interpretation.LastWrite
import LedgerSearch.Proofs.Calendar.Instant
import LedgerSearch.Proofs.Sql.Meaning
import LedgerSearch.Proofs.Sql.Selection
import LedgerSearch.Proofs.Sql.Conditions
import LedgerSearch.Proofs.Calendar.English
import LedgerSearch.Proofs.Interpretation.Failure
import LedgerSearch.Proofs.Search.Statements
import LedgerSearch.Proofs.Interpretation.FirstFailure
import LedgerSearch.Proofs.Query.Rendering
import LedgerSearch.Proofs.Sql.Shape
import LedgerSearch.Proofs.Interpretation.Joined
import LedgerSearch.Proofs.Search.Intersection
import LedgerSearch.Proofs.Interpretation.Restriction
import LedgerSearch.Proofs.Search.Resolved
import LedgerSearch.Proofs.Database.Agreement
import LedgerSearch.Proofs.Interpretation.Reordering
import LedgerSearch.Proofs.Sql.Paging
import LedgerSearch.Proofs.Filter.ReadBack
import LedgerSearch.Proofs.CommandLine.Trace
import LedgerSearch.Proofs.Sql.Literal
import LedgerSearch.Proofs.Interpretation.NameRule
import LedgerSearch.Proofs.Filter.Amounts
import LedgerSearch.Proofs.Filter.Calls
import LedgerSearch.Proofs.Filter.History
import LedgerSearch.Proofs.Sql.Everything
import LedgerSearch.Proofs.CommandLine.Unfiltered
import LedgerSearch.Proofs.Sql.Refusal
import LedgerSearch.Proofs.Lookup.Ranking
import LedgerSearch.Proofs.Search.TypedBack
import LedgerSearch.Proofs.Decimal.Spelling
import LedgerSearch.Proofs.Operator.Narrowing
import LedgerSearch.Proofs.Calendar.WeekDate
import LedgerSearch.Proofs.Calendar.Reading
import LedgerSearch.Proofs.Calendar.ThreeNumbers
import LedgerSearch.Proofs.Calendar.ClockTime
import LedgerSearch.Proofs.Calendar.Compact
import LedgerSearch.Proofs.Calendar.UniversalDay
import LedgerSearch.Proofs.Calendar.WeekNotation
import LedgerSearch.Proofs.Calendar.MonthNames
import LedgerSearch.Proofs.Calendar.Written
import LedgerSearch.Proofs.Query.Quotation
import LedgerSearch.Proofs.CommandLine.Rejection
import LedgerSearch.Proofs.Settings.Variables
import LedgerSearch.Proofs.Settings.Whitelist
import LedgerSearch.Proofs.Text.Upper
import LedgerSearch.Proofs.Settings.LogLevel
import LedgerSearch.Proofs.Calendar.Tiling
import LedgerSearch.Proofs.Sql.Escaping
