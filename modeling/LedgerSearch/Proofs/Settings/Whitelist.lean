import Mathlib.Data.List.Forall2
import Mathlib.Data.Set.List
import LedgerSearch.Proofs.Operator.Narrowing
import LedgerSearch.Proofs.Settings.Variables

/-!
# The operators that settings accept

The operators of a search are listed in a text, between commas, or as a list of names.
A text is accepted when each of its parts that is not blank is the name of an operator
once it is trimmed and in lower case, a list when each of its names is one as it
stands. These are the names that the registry of all operators can be narrowed to, so
whatever is accepted has a registry.

* `Text.existsUnique_cutAtCommas`: the parts of a text.
* `stands_checkOperators_iff`: the names that are read from what is found.
* `checkOperatorNames_iff_restrict`: the check and the registry agree on all names.
* `accepts_iff`: the whitelist is accepted or not whatever the other variables are.
-/

namespace LedgerSearch

/-! ## The parts of a text -/

namespace Text

theorem split_eq_splitOnP (p : Char → Bool) (cs : List Char) : split p cs = cs.splitOnP p := by
  induction cs with
  | nil => rfl
  | cons c cs ih =>
    rw [split, List.splitOnP_cons_eq_if_modifyHead, ih]
    cases hparts : cs.splitOnP p with
    | nil => exact absurd hparts (List.splitOnP_ne_nil p cs)
    | cons part parts => rfl

theorem not_sep_of_mem_split {p : Char → Bool} {cs part : List Char} (h : part ∈ split p cs)
    {c : Char} (hc : c ∈ part) : p c = false := by
  induction cs generalizing part with
  | nil =>
    rw [List.mem_singleton.mp h] at hc
    cases hc
  | cons d cs ih =>
    rw [split] at h
    split at h
    · rcases List.mem_cons.mp h with rfl | h
      · cases hc
      · exact ih h hc
    · rename_i hd
      split at h
      · rename_i hnil
        exact absurd hnil (split_ne_nil p cs)
      · rename_i field fields hsplit
        rcases List.mem_cons.mp h with rfl | h
        · rcases List.mem_cons.mp hc with rfl | hc
          · simpa using hd
          · exact ih (hsplit ▸ List.mem_cons_self) hc
        · exact ih (hsplit ▸ List.mem_cons_of_mem _ h) hc

/-- The parts of a text between its commas. -/
structure CutAtCommas (text : String) (parts : List String) : Prop where
  joined : ",".intercalate parts = text
  ne_nil : parts ≠ []
  comma_notMem : ∀ part ∈ parts, ',' ∉ part.toList

theorem CutAtCommas.split_eq {text : String} {parts : List String} (h : CutAtCommas text parts) :
    split (· == ',') text.toList = parts.map String.toList := by
  have hcomma : ∀ part ∈ parts.map String.toList, ',' ∉ part :=
    List.forall_mem_map.mpr h.comma_notMem
  have hne : parts.map String.toList ≠ [] := List.map_eq_nil_iff.not.mpr h.ne_nil
  rw [← h.joined, String.toList_intercalate, split_eq_splitOnP, ← List.splitOn_eq_splitOnP]
  exact List.splitOn_intercalate ',' hcomma hne

/-- A text has parts, and no others. -/
theorem existsUnique_cutAtCommas (text : String) : ∃! parts, CutAtCommas text parts := by
  refine ⟨(split (· == ',') text.toList).map String.ofList, ⟨?_, ?_, ?_⟩, fun parts h => ?_⟩
  · rw [← String.toList_inj, String.toList_intercalate, List.map_map]
    simpa [Function.comp_def] using join_split ',' text.toList
  · exact List.map_eq_nil_iff.not.mpr (split_ne_nil _ _)
  · refine List.forall_mem_map.mpr fun part hpart hcomma => ?_
    rw [String.toList_ofList] at hcomma
    exact absurd (not_sep_of_mem_split hpart hcomma) (by decide)
  · rw [h.split_eq, List.map_map]
    simp [Function.comp_def]

theorem trim_eq_empty_iff {s : String} : trim s = "" ↔ trimmed s.toList = [] := by
  rw [trim, ← String.toList_inj, String.toList_ofList, String.toList_empty]

end Text

/-! ## Items that are checked -/

namespace Checked

variable {α β : Type} {check : α → Checked β}

theorem eachFrom_eq_ok_iff {i : Nat} {items : List α} {values : List β} :
    eachFrom check i items = .ok values ↔ List.Forall₂ (check · = .ok ·) items values := by
  induction items generalizing i values with
  | nil =>
    rw [List.forall₂_nil_left_iff]
    constructor
    · intro h
      cases h
      rfl
    · rintro rfl
      rfl
  | cons a items ih =>
    constructor
    · intro h
      obtain ⟨_, rest, hfirst, hrest, rfl⟩ := seq_eq_ok.mp h
      obtain ⟨b, hb, rfl⟩ := map_eq_ok.mp hfirst
      exact .cons (under_eq_ok.mp hb) (ih.mp hrest)
    · rintro (_ | ⟨hb, hrest⟩)
      exact seq_ok (map_ok (under_ok _ hb)) (ih.mpr hrest)

end Checked

namespace Document

theorem checkText_eq_ok_iff {d : Document} {s : String} : checkText d = .ok s ↔ d = .text s := by
  constructor
  · intro h
    cases d <;> cases h
    rfl
  · rintro rfl
    rfl

/-- A list that holds texts only is read as these. -/
theorem each_checkText_eq_ok_iff {items : List Document} {names : List String} :
    Checked.each checkText items = .ok names ↔ items = names.map .text := by
  rw [Checked.each, Checked.eachFrom_eq_ok_iff]
  simp only [checkText_eq_ok_iff]
  rw [← List.forall₂_map_right_iff, List.forall₂_eq_eq_eq]

end Document

/-! ## Names of operators -/

namespace Operator

theorem ofName?_eq_some_iff {name : String} {op : Operator} :
    ofName? name = some op ↔ op.name = name := by
  constructor
  · intro h
    simpa using List.find?_some h
  · rintro rfl
    exact ofName?_name op

theorem isNone_ofName?_iff {name : String} :
    (ofName? name).isNone = true ↔ name ∉ Registry.full.names := by
  rw [Option.isNone_iff_eq_none, Option.eq_none_iff_forall_ne_some]
  constructor
  · intro h hmem
    obtain ⟨op, -, hop⟩ := List.mem_map.mp hmem
    exact h op (ofName?_eq_some_iff.mpr hop)
  · intro h op hop
    exact h (ofName?_eq_some_iff.mp hop ▸ List.mem_map_of_mem op.mem_all)

end Operator

namespace Settings

variable {names : List String}

theorem unknown_eq_nil_iff :
    (names.filter fun name => (Operator.ofName? name).isNone) = [] ↔
      ∀ name ∈ names, name ∈ Registry.full.names := by
  simp only [List.filter_eq_nil_iff, Operator.isNone_ofName?_iff, not_not]

/-- Names are accepted as the operators that have them. -/
theorem checkOperatorNames_eq_ok_iff {operators : List Operator} :
    checkOperatorNames names = .ok operators ↔ operators.map (·.name) = names := by
  rw [checkOperatorNames]
  constructor
  · intro h
    split at h
    · rename_i hknown
      cases h
      exact Registry.map_name_filterMap_get? (r := .full) (unknown_eq_nil_iff.mp hknown)
    · cases h
  · rintro rfl
    have hknown := unknown_eq_nil_iff.mpr
      (List.forall_mem_map.mpr fun op (_ : op ∈ operators) => List.mem_map_of_mem op.mem_all)
    rw [hknown]
    simp [List.filterMap_map]

theorem exists_checkOperatorNames_iff :
    (∃ operators, checkOperatorNames names = .ok operators) ↔
      ∀ name ∈ names, name ∈ Registry.full.names := by
  simp only [checkOperatorNames_eq_ok_iff]
  constructor
  · rintro ⟨operators, rfl⟩
    exact List.forall_mem_map.mpr fun op _ => List.mem_map_of_mem op.mem_all
  · intro h
    exact ⟨_, Registry.map_name_filterMap_get? (r := .full) h⟩

/-- The settings accept the names that the registry of all operators can be narrowed to. -/
theorem checkOperatorNames_iff_restrict :
    (∃ operators, checkOperatorNames names = .ok operators) ↔
      ∃ registry, Registry.full.restrict names = .ok registry := by
  rw [exists_checkOperatorNames_iff, Registry.exists_restrict_iff]

/-- The names that are read from a text: its parts that are not blank, without the blanks around
them and in lower case. -/
theorem operatorNames_of_cut {text : String} {parts : List String}
    (h : Text.CutAtCommas text parts) :
    operatorNames text = ((parts.map Text.trim).filter (· ≠ "")).map Text.lower := by
  rw [operatorNames, h.split_eq]
  -- From here on the parts may be any texts.
  clear h
  induction parts with
  | nil => rfl
  | cons part parts ih =>
    by_cases hblank : Text.trim part = ""
    · have hempty := Text.trim_eq_empty_iff.mp hblank
      simpa [hempty, hblank] using ih
    · have hempty := Text.trim_eq_empty_iff.not.mp hblank
      simpa [hempty, hblank, Text.trim] using ih

/-- The names of operators that a value lists, where there is a list. -/
def Listed : Option Document → Option (List String) → Prop
  | some (.text s), names => ∃ parts, Text.CutAtCommas s parts ∧
      names = some (((parts.map Text.trim).filter (· ≠ "")).map Text.lower)
  | some (.list items), names => ∃ listed, items = listed.map .text ∧ names = some listed
  | some .null, names => names = none
  | none, names => names = none
  | _, _ => False

/-- The operators that stand for a value are those of the names that it lists. -/
theorem stands_checkOperators_iff {found : Option Document} {operators : Option (List Operator)} :
    Stands checkOperators none found operators ↔ Listed found (operators.map (·.map (·.name))) := by
  match found with
  | none => simp [Stands, Listed]
  | some .null => simp [Stands, Listed, checkOperators, eq_comm]
  | some (.bool _) | some (.integer _) | some (.object _) =>
    simp [Stands, Listed, checkOperators, Checked.flaw]
  | some (.text s) =>
    obtain ⟨parts, hparts, -⟩ := Text.existsUnique_cutAtCommas s
    simp only [Stands, Listed, checkOperators, Checked.map_eq_ok, checkOperatorNames_eq_ok_iff]
    constructor
    · rintro ⟨accepted, hnames, rfl⟩
      exact ⟨parts, hparts, by rw [← operatorNames_of_cut hparts, ← hnames]; rfl⟩
    · rintro ⟨parts, hparts, hnames⟩
      obtain ⟨accepted, rfl, haccepted⟩ := Option.map_eq_some_iff.mp hnames
      exact ⟨accepted, haccepted.trans (operatorNames_of_cut hparts).symm, rfl⟩
  | some (.list items) =>
    simp only [Stands, Listed, checkOperators, Checked.andThen_eq_ok, Checked.map_eq_ok,
      checkOperatorNames_eq_ok_iff, Document.each_checkText_eq_ok_iff]
    constructor
    · rintro ⟨listed, rfl, accepted, rfl, rfl⟩
      exact ⟨_, rfl, rfl⟩
    · rintro ⟨listed, rfl, hnames⟩
      obtain ⟨accepted, rfl, rfl⟩ := Option.map_eq_some_iff.mp hnames
      exact ⟨_, rfl, accepted, rfl, rfl⟩

/-- A text is accepted for the names of its parts. -/
theorem exists_stands_text_iff {text : String} {parts : List String}
    (h : Text.CutAtCommas text parts) :
    (∃ operators, Stands checkOperators none (some (.text text)) operators) ↔
      ∀ part ∈ parts, Text.trim part ≠ "" →
        Registry.full.contains (Text.lower (Text.trim part)) = true := by
  have hnames : (∀ name ∈ operatorNames text, name ∈ Registry.full.names) ↔
      ∀ part ∈ parts, Text.trim part ≠ "" →
        Registry.full.contains (Text.lower (Text.trim part)) = true := by
    rw [operatorNames_of_cut h, List.forall_mem_map]
    simp [Registry.contains_iff]
  rw [← hnames, ← exists_checkOperatorNames_iff]
  simp [Stands, checkOperators, Checked.map_eq_ok]

/-- A list is accepted for its names. -/
theorem exists_stands_list_iff {items : List Document} :
    (∃ operators, Stands checkOperators none (some (.list items)) operators) ↔
      ∀ item ∈ items, ∃ name, item = .text name ∧ Registry.full.contains name = true := by
  simp only [Stands, checkOperators, Checked.andThen_eq_ok, Checked.map_eq_ok,
    Document.each_checkText_eq_ok_iff, Registry.contains_iff]
  constructor
  · rintro ⟨_, names, rfl, accepted, haccepted, -⟩
    have hnames := exists_checkOperatorNames_iff.mp ⟨accepted, haccepted⟩
    exact List.forall_mem_map.mpr fun name hname => ⟨name, rfl, hnames name hname⟩
  · intro h
    -- Every item is a text, so the list is one of texts.
    have htexts : items ∈ Set.range (List.map Document.text) := by
      rw [Set.range_list_map]
      intro item hitem
      obtain ⟨name, rfl, -⟩ := h item hitem
      exact ⟨name, rfl⟩
    obtain ⟨names, rfl⟩ := htexts
    have hnames : ∀ name ∈ names, name ∈ Registry.full.names := by
      intro name hname
      obtain ⟨_, hsame, hfull⟩ := h _ (List.mem_map_of_mem hname)
      cases hsame
      exact hfull
    obtain ⟨accepted, haccepted⟩ := exists_checkOperatorNames_iff.mpr hnames
    exact ⟨_, names, rfl, accepted, haccepted, rfl⟩

/-! ## Settings that are accepted -/

variable {given : List (String × Document)} {env file : Environment}

/-- Whether the values of the variables are accepted when nothing is listed. -/
def AcceptsOthers (given : List (String × Document)) (env file : Environment) : Prop :=
  Accepts (("SEARCH_OPERATORS", .null) :: given) env file

/-- The list of operators is accepted or not whatever the other variables are. -/
theorem accepts_iff :
    Accepts given env file ↔ AcceptsOthers given env file ∧
      ∃ operators, Stands checkOperators none (found? given env file "SEARCH_OPERATORS")
        operators := by
  have hothers : ∀ name ∈ variableNames, "SEARCH_OPERATORS" ≠ name →
      found? (("SEARCH_OPERATORS", .null) :: given) env file name = found? given env file name :=
    fun name hname => found?_cons_of_ne .null (by decide) hname
  have hnone : ∃ operators, Stands checkOperators none
      (found? (("SEARCH_OPERATORS", .null) :: given) env file "SEARCH_OPERATORS") operators := by
    rw [found?_cons, if_pos rfl]
    exact ⟨none, rfl⟩
  rw [AcceptsOthers, accepts_iff_stands, accepts_iff_stands,
    hothers "DATABASE_URL" (by decide) (by decide),
    hothers "SEARCH_PAGE_SIZE" (by decide) (by decide), hothers "LOG_LEVEL" (by decide) (by decide)]
  constructor
  · rintro ⟨hurl, hoperators, hrest⟩
    exact ⟨⟨hurl, hnone, hrest⟩, hoperators⟩
  · rintro ⟨⟨hurl, -, hrest⟩, hoperators⟩
    exact ⟨hurl, hoperators, hrest⟩

theorem names_registry {settings : Settings} {registry : Registry}
    (h : settings.registry = .ok registry) :
    registry.names = (settings.operators.map (·.map (·.name))).elim Registry.full.names
      (firstOccurrences id) := by
  rw [Settings.registry] at h
  split at h
  · rename_i hnone
    cases h
    rw [hnone]
    rfl
  · rename_i operators hoperators
    rw [hoperators]
    exact Registry.names_of_restrict h

/-- A blank text lists no names. -/
theorem names_of_listed_blank {text : String} {names : Option (List String)}
    (h : Listed (some (.text text)) names) (hblank : Text.trim text = "") : names = some [] := by
  obtain ⟨parts, hparts, rfl⟩ := h
  have hcomma : ',' ∉ text.toList := by
    intro hmem
    have hall := Text.trimmed_eq_nil_iff.mp (Text.trim_eq_empty_iff.mp hblank)
    exact absurd (List.all_eq_true.mp hall ',' hmem) (by decide)
  have hone : Text.CutAtCommas text [text] :=
    ⟨String.intercalate_singleton, by simp, by simpa using hcomma⟩
  obtain rfl := (Text.existsUnique_cutAtCommas text).unique hparts hone
  simp [hblank]

/-- Settings that are accepted have a registry, with the names that are listed, each at its first
place, and with all names where nothing is listed. A text is accepted when the other variables are
and each of its parts is blank or the name of an operator once it is trimmed and in lower case, a
list when each item is the name of an operator as it stands. So the settings accept the lists of
names that the registry of all operators can be narrowed to. -/
theorem accepted_whitelist_starts (given : List (String × Document)) (env file : Environment)
    (found : Option Document) (hfound : found? given env file "SEARCH_OPERATORS" = found) :
    (∀ settings, load given env file = .ok settings →
      ∃ registry names, settings.registry = .ok registry ∧
        settings.operators.map (·.map (·.name)) = names ∧ Listed found names ∧
        registry.names = names.elim Registry.full.names (firstOccurrences id) ∧
        (found = none ∨ found = some .null → registry = Registry.full) ∧
        ∀ text, found = some (.text text) → Text.trim text = "" → registry.names = []) ∧
    (found = none ∨ found = some .null →
      (Accepts given env file ↔ AcceptsOthers given env file)) ∧
    (∀ text parts, found = some (.text text) → Text.CutAtCommas text parts →
      (Accepts given env file ↔ AcceptsOthers given env file ∧
        ∀ part ∈ parts, Text.trim part ≠ "" →
          Registry.full.contains (Text.lower (Text.trim part)) = true)) ∧
    (∀ text, ∃! parts, Text.CutAtCommas text parts) ∧
    (∀ items, found = some (.list items) →
      (Accepts given env file ↔ AcceptsOthers given env file ∧
        ∀ item ∈ items, ∃ name, item = .text name ∧ Registry.full.contains name = true)) ∧
    ∀ names, (∃ operators, checkOperatorNames names = .ok operators) ↔
      ∃ registry, Registry.full.restrict names = .ok registry := by
  have haccepts := @accepts_iff given env file
  rw [hfound] at haccepts
  refine ⟨fun settings h => ?_, ?_, ?_, Text.existsUnique_cutAtCommas, ?_,
    fun _ => checkOperatorNames_iff_restrict⟩
  · obtain ⟨registry, hregistry⟩ := settings.exists_registry
    have hstands := (load_eq_ok_iff.mp h).operators
    rw [hfound] at hstands
    have hlisted := stands_checkOperators_iff.mp hstands
    have hnames := names_registry hregistry
    refine ⟨registry, _, hregistry, rfl, hlisted, hnames, ?_, ?_⟩
    · intro hnone
      apply Registry.eq_of_names_eq
      rcases hnone with rfl | rfl
      · rw [hnames, hlisted]
        rfl
      · rw [hnames, hlisted]
        rfl
    · rintro text rfl hblank
      rw [hnames, names_of_listed_blank hlisted hblank]
      rfl
  · rintro (rfl | rfl)
    · exact haccepts.trans (and_iff_left ⟨none, rfl⟩)
    · exact haccepts.trans (and_iff_left ⟨none, rfl⟩)
  · rintro text parts rfl hparts
    rw [haccepts, exists_stands_text_iff hparts]
  · rintro items rfl
    rw [haccepts, exists_stands_list_iff]

/-- An environment that lists operators. -/
def listing (text : String) : Environment :=
  [("search_operators", text)]

/-- Blanks, repeats and case do not keep a text from being accepted, a part that is no name does. -/
theorem accepted_whitelist_starts_tag :
    (∃ settings registry, load [] (listing "amount, Tag ,,amount") [] = .ok settings ∧
      settings.registry = .ok registry ∧ registry.names = ["amount", "tag"]) ∧
    ¬ Accepts [] (listing "amount,tags") [] := by
  constructor
  · have hload : load [] (listing "amount, Tag ,,amount") [] =
        .ok { operators := some [.amount, .tag, .amount] } := rfl
    obtain ⟨hstarts, -⟩ :=
      accepted_whitelist_starts [] (listing "amount, Tag ,,amount") [] _ rfl
    obtain ⟨registry, _, hregistry, rfl, -, hnames, -⟩ := hstarts _ hload
    exact ⟨_, registry, hload, hregistry, hnames⟩
  · obtain ⟨-, -, htext, -⟩ := accepted_whitelist_starts [] (listing "amount,tags") [] _ rfl
    have hparts : Text.CutAtCommas "amount,tags" ["amount", "tags"] :=
      ⟨by decide +kernel, by simp, by decide +kernel⟩
    intro haccepts
    have htags := ((htext _ _ rfl hparts).mp haccepts).2 "tags" (by simp) (by decide +kernel)
    exact absurd htags (by decide +kernel)

end Settings

end LedgerSearch
