import LedgerSearch.Text.Case
import LedgerSearch.Text.Split

/-!
# Environments

Named texts from which a program is configured, in order. Of the variables with one
name the last one counts.
-/

namespace LedgerSearch

abbrev Environment := List (String × String)

namespace Environment

/-- The value of the last variable of a name. -/
def get? (env : Environment) (name : String) : Option String :=
  env.reverse.lookup name

/-- The value of the last variable whose name is the given one in any case. -/
def getAnyCase? (env : Environment) (name : String) : Option String :=
  (env.reverse.find? fun v => Text.lower v.1 == Text.lower name).map (·.2)

/-- The variables of one environment, and those of another that it does not have. -/
def withDefaults (env defaults : Environment) : Environment :=
  env ++ defaults.filter fun v => (env.get? v.1).isNone

end Environment

end LedgerSearch
