import LedgerSearch.Proofs.CommandLine.Setup
import LedgerSearch.Proofs.Filter.ReadBack

/-!
# The variables behind the settings

A variable is looked for among the values that are given directly, then in the
environment, then in the file. The first value that is found is checked, and where
none is found the default stands. The four variables do not depend on each other:
settings are accepted when the value of each variable is.

* `field?_sources`: the value that is found for a variable.
* `load_eq_ok_iff`: the settings that are loaded, variable by variable.
* `accepts_iff_stands`: settings are accepted when the value of each variable is.
* `found?_cons_of_ne`: a value given for a variable is found for no other one.
-/

namespace LedgerSearch.Settings

open Document

variable {given : List (String × Document)} {env file : Environment}

/-- The value that counts for a variable. -/
def found? (given : List (String × Document)) (env file : Environment) (name : String) :
    Option Document :=
  ((givenValue? given name).or ((env.getAnyCase? name).map .text)).or
    ((file.getAnyCase? name).map .text)

theorem field?_filterMap (names : List String) (value? : String → Option Document) (name : String) :
    field? (names.filterMap fun n => (value? n).map fun d => (n, d)) name =
      if name ∈ names then value? name else none := by
  induction names with
  | nil => rfl
  | cons n names ih =>
    by_cases hn : name = n
    · subst hn
      cases hvalue : value? name with
      | none => simp [hvalue, ih]
      | some d => simp [field?, hvalue]
    · cases hvalue : value? n with
      | none => simp [hvalue, ih, hn]
      | some d =>
        simp only [field?] at ih
        simp [field?, hvalue, ih, hn, List.lookup_cons, beq_false_of_ne hn]

/-- Among the sources a variable has the value that counts. -/
theorem field?_sources {name : String} (h : name ∈ variableNames) :
    field? (sources given env file) name = found? given env file name := by
  simp only [sources, field?_append, field?_filterMap, if_pos h, found?]

/-- A value given for a variable is found for it in any case. -/
theorem found?_cons (name other : String) (d : Document) :
    found? ((name, d) :: given) env file other =
      if Text.lower name = Text.lower other then some d else found? given env file other := by
  by_cases h : Text.lower name = Text.lower other
  · simp [found?, givenValue?, h]
  · simp [found?, givenValue?, h]

/-- A value given for a variable is found for no other one: their names differ in more than case. -/
theorem found?_cons_of_ne {name other : String} (d : Document) (hname : name ∈ variableNames)
    (hother : other ∈ variableNames) (hne : name ≠ other) :
    found? ((name, d) :: given) env file other = found? given env file other := by
  have hlower : ∀ a ∈ variableNames, ∀ b ∈ variableNames, a ≠ b → Text.lower a ≠ Text.lower b := by
    decide +kernel
  rw [found?_cons, if_neg (hlower name hname other hother hne)]

variable {α : Type}

/-- The value that stands where a check decides on what is found, and a default where nothing
is. -/
def Stands (check : Document → Checked α) (default : α) (found : Option Document) (a : α) : Prop :=
  match found with
  | some d => check d = .ok a
  | none => a = default

theorem checkDefaulted_eq_ok_iff {name : String} (h : name ∈ variableNames)
    {check : Document → Checked α} {default a : α} :
    checkDefaulted (sources given env file) name default check = .ok a ↔
      Stands check default (found? given env file name) a := by
  rw [checkDefaulted, field?_sources h]
  cases found? given env file name with
  | none => exact ⟨fun h => by cases h; rfl, fun h => by cases h; rfl⟩
  | some d => exact Checked.under_eq_ok

/-- Settings that are loaded: each of them stands for what is found for its variable. -/
structure IsLoaded (given : List (String × Document)) (env file : Environment)
    (settings : Settings) : Prop where
  databaseUrl : Stands (checkOptional checkText) none (found? given env file "DATABASE_URL")
    settings.databaseUrl
  operators : Stands checkOperators none (found? given env file "SEARCH_OPERATORS")
    settings.operators
  pageSize : Stands checkPageSize ⟨50, by decide⟩ (found? given env file "SEARCH_PAGE_SIZE")
    ⟨settings.pageSize, settings.one_le_pageSize⟩
  logLevel : Stands checkLogLevel "INFO" (found? given env file "LOG_LEVEL") settings.logLevel

theorem load_eq_ok_iff {settings : Settings} :
    load given env file = .ok settings ↔ IsLoaded given env file settings := by
  constructor
  · intro h
    obtain ⟨_, level, hupToSize, hlevel, rfl⟩ := Checked.seq_eq_ok.mp h
    obtain ⟨_, size, hupToOperators, hsize, rfl⟩ := Checked.seq_eq_ok.mp hupToSize
    obtain ⟨_, operators, hupToUrl, hoperators, rfl⟩ := Checked.seq_eq_ok.mp hupToOperators
    obtain ⟨url, hurl, rfl⟩ := Checked.map_eq_ok.mp hupToUrl
    exact ⟨(checkDefaulted_eq_ok_iff (by decide)).mp hurl,
      (checkDefaulted_eq_ok_iff (by decide)).mp hoperators,
      (checkDefaulted_eq_ok_iff (by decide)).mp hsize,
      (checkDefaulted_eq_ok_iff (by decide)).mp hlevel⟩
  · intro h
    have hurl := (checkDefaulted_eq_ok_iff (by decide)).mpr h.databaseUrl
    have hoperators := (checkDefaulted_eq_ok_iff (by decide)).mpr h.operators
    have hsize := (checkDefaulted_eq_ok_iff (by decide)).mpr h.pageSize
    have hlevel := (checkDefaulted_eq_ok_iff (by decide)).mpr h.logLevel
    exact Checked.seq_ok (Checked.seq_ok (Checked.seq_ok (Checked.map_ok hurl) hoperators) hsize)
      hlevel

/-- Whether the values of all variables are accepted. -/
def Accepts (given : List (String × Document)) (env file : Environment) : Prop :=
  ∃ settings, load given env file = .ok settings

/-- Settings are accepted when the value of each variable is. -/
theorem accepts_iff_stands :
    Accepts given env file ↔
      (∃ url, Stands (checkOptional checkText) none (found? given env file "DATABASE_URL") url) ∧
      (∃ operators, Stands checkOperators none (found? given env file "SEARCH_OPERATORS")
        operators) ∧
      (∃ size, Stands checkPageSize ⟨50, by decide⟩ (found? given env file "SEARCH_PAGE_SIZE")
        size) ∧
      ∃ level, Stands checkLogLevel "INFO" (found? given env file "LOG_LEVEL") level := by
  simp only [Accepts, load_eq_ok_iff]
  constructor
  · rintro ⟨settings, h⟩
    exact ⟨⟨_, h.databaseUrl⟩, ⟨_, h.operators⟩, ⟨_, h.pageSize⟩, _, h.logLevel⟩
  · rintro ⟨⟨url, hurl⟩, ⟨operators, hoperators⟩, ⟨size, hsize⟩, level, hlevel⟩
    exact ⟨⟨url, operators, size.val, level, size.property⟩, hurl, hoperators, hsize, hlevel⟩

end LedgerSearch.Settings
