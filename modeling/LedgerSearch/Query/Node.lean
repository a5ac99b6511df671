/-!
# Query nodes

What a search text is made of, in the order of the text.
-/

namespace LedgerSearch.Query

/-- A piece of a query. -/
inductive Node where
  /-- A bare word, looked for as it stands. -/
  | word (text : String)
  /-- A quoted text, looked for as it stands. -/
  | phrase (text : String)
  /-- A value given to a named operator. -/
  | field (operator value : String)
  /-- A piece of another kind, which a search does not handle. -/
  | foreign (kind : String)
  deriving DecidableEq

end LedgerSearch.Query
