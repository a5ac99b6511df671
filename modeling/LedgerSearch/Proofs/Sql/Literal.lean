import LedgerSearch.Proofs.Database.Agreement
import LedgerSearch.Proofs.Sql.Conditions

/-!
# Terms stand for themselves

The database reads a pattern from left to right and backtracks at every percent
sign. What it accepts is what the parts of the pattern stand for. A term has its
special characters escaped before it becomes part of a pattern, so the pattern
of the texts that hold a term is matched by those texts and by no other, whatever
the term is made of.

* `like_iff_matches`: the matcher that backtracks decides what matches.
* `escape_eq_escapeOnly`: escaping the special characters one after the other, the
  backslash first, escapes each of them once.
* `exists_wordClauses`: the words of a filter are compared through their patterns.
* `exists_tokens_lookupStatement`: so is the term of every lookup in the database.
-/

namespace LedgerSearch.Sql

namespace Pattern

/-! ## The matcher -/

/-- Reads the pattern from left to right, and tries what follows a percent sign on the text before
the sign takes the next character. A backslash at the end of the pattern fits nothing. -/
def like (fold : Char → Char) : List Char → List Char → Bool
  | [], cs => cs.isEmpty
  | ['\\'], _ => false
  | '%' :: ps, [] => like fold ps []
  | '%' :: ps, c :: cs => like fold ps (c :: cs) || like fold ('%' :: ps) cs
  | _ :: _, [] => false
  | '\\' :: p :: ps, c :: cs => fold c == fold p && like fold ps cs
  | '_' :: ps, _ :: cs => like fold ps cs
  | p :: ps, c :: cs => fold c == fold p && like fold ps cs
termination_by pattern text => pattern.length + text.length

variable {fold : Char → Char} {p c : Char} {ps cs : List Char}

theorem matches_nil : Matches fold [] cs ↔ cs = [] := by
  simp [Matches, parts?, Fits]

theorem not_matches_dangling : ¬ Matches fold ['\\'] cs := by
  simp [Matches, parts?]

theorem matches_percent :
    Matches fold ('%' :: ps) cs ↔ ∃ rest ∈ cs.tails, Matches fold ps rest := by
  simp only [Matches, parts?, Option.map_eq_some_iff, exists_exists_and_eq_and, fits_anyText_cons]
  constructor
  · rintro ⟨qs, hqs, rest, hrest, h⟩
    exact ⟨rest, hrest, qs, hqs, h⟩
  · rintro ⟨rest, hrest, qs, hqs, h⟩
    exact ⟨qs, hqs, rest, hrest, h⟩

theorem matches_percent_cons :
    Matches fold ('%' :: ps) (c :: cs) ↔
      Matches fold ps (c :: cs) ∨ Matches fold ('%' :: ps) cs := by
  rw [matches_percent, matches_percent, List.tails_cons, List.exists_mem_cons_iff]

theorem matches_line : Matches fold ('_' :: ps) (c :: cs) ↔ Matches fold ps cs := by
  simp [Matches, parts?, Fits]

/-- The first part of the pattern is a character that stands for itself. -/
theorem matches_exactly {pattern : List Char}
    (h : parts? pattern = (parts? ps).map (.exactly p :: ·)) :
    Matches fold pattern cs ↔
      ∃ c rest, cs = c :: rest ∧ fold c = fold p ∧ Matches fold ps rest := by
  simp only [Matches, h, Option.map_eq_some_iff, exists_exists_and_eq_and, Fits]
  constructor
  · rintro ⟨qs, hqs, c, rest, hcs, hc, h⟩
    exact ⟨c, rest, hcs, hc, qs, hqs, h⟩
  · rintro ⟨c, rest, hcs, hc, qs, hqs, h⟩
    exact ⟨qs, hqs, c, rest, hcs, hc, h⟩

theorem matches_exactly_cons {pattern : List Char}
    (h : parts? pattern = (parts? ps).map (.exactly p :: ·)) :
    Matches fold pattern (c :: cs) ↔ fold c = fold p ∧ Matches fold ps cs := by
  rw [matches_exactly h]
  simp

/-- Only a percent sign lets a pattern with any part at all match the empty text. -/
theorem not_matches_nil (hpercent : p ≠ '%') : ¬ Matches fold (p :: ps) [] := by
  by_cases hp : isSpecial p = true
  · rcases isSpecial_iff.mp hp with rfl | rfl | rfl
    · cases ps with
      | nil => exact not_matches_dangling
      | cons d ds => simp [matches_exactly (parts?_escaped d ds)]
    · exact absurd rfl hpercent
    · simp [Matches, parts?, Fits]
  · simp [matches_exactly (parts?_plain hp ps)]

/-- The matcher that backtracks decides what matches. -/
theorem like_iff_matches (pattern text : List Char) :
    like fold pattern text = true ↔ Matches fold pattern text := by
  fun_induction like fold pattern text with
  | case1 cs => rw [matches_nil, List.isEmpty_iff]
  | case2 cs => exact iff_of_false Bool.false_ne_true not_matches_dangling
  | case3 ps ih => simp [ih, matches_percent]
  | case4 ps c cs ih ih' => rw [Bool.or_eq_true, ih, ih', matches_percent_cons]
  | case5 p ps _ hpercent => exact iff_of_false Bool.false_ne_true (not_matches_nil hpercent)
  | case6 p ps c cs ih =>
    rw [Bool.and_eq_true, beq_iff_eq, ih, matches_exactly_cons (parts?_escaped p ps)]
  | case7 ps c cs ih => rw [ih, matches_line]
  | case8 p ps c cs hlast hpercent hescape hline ih =>
    have hp := not_isSpecial hlast hescape hpercent hline
    rw [Bool.and_eq_true, beq_iff_eq, ih, matches_exactly_cons (parts?_plain hp ps)]

theorem like_holding (fold : Char → Char) (term text : String) :
    like fold (holding term).toList text.toList = true ↔
      term.toList.map fold <:+: text.toList.map fold := by
  rw [like_iff_matches]
  exact matches_holding fold term text.toList

/-- It makes no difference whether characters are folded when they are compared or before. -/
theorem like_map_holding (hfold : KeepsSpecial fold) (term text : String) :
    like id ((holding term).toList.map fold) (text.toList.map fold) = true ↔
      term.toList.map fold <:+: text.toList.map fold := by
  rw [like_iff_matches, ← matches_map_iff hfold]
  exact matches_holding fold term text.toList

/-! ## Escaping one character after the other -/

/-- Puts a backslash before every occurrence of one character. -/
def escapeOnly (special : Char) (cs : List Char) : List Char :=
  cs.flatMap fun c => if c = special then ['\\', c] else [c]

theorem escapeOnly_append (special : Char) (a b : List Char) :
    escapeOnly special (a ++ b) = escapeOnly special a ++ escapeOnly special b :=
  List.flatMap_append

/-- The backslashes that are put before percent signs and low lines are not escaped themselves,
because the backslash comes first. -/
theorem escape_eq_escapeOnly (cs : List Char) :
    escape cs = escapeOnly '_' (escapeOnly '%' (escapeOnly '\\' cs)) := by
  induction cs with
  | nil => rfl
  | cons c cs ih =>
    have hchar : (if isSpecial c then ['\\', c] else [c]) =
        escapeOnly '_' (escapeOnly '%' (escapeOnly '\\' [c])) := by
      by_cases hc : isSpecial c = true
      · rw [if_pos hc]
        rcases isSpecial_iff.mp hc with rfl | rfl | rfl <;> rfl
      · rw [if_neg hc]
        obtain ⟨hbackslash, hpercent, hline⟩ : c ≠ '\\' ∧ c ≠ '%' ∧ c ≠ '_' := by
          simpa [isSpecial_iff] using hc
        simp [escapeOnly, hbackslash, hpercent, hline]
    rw [escape_cons, hchar, ih, ← escapeOnly_append, ← escapeOnly_append, ← escapeOnly_append]
    rfl

end Pattern

/-! ## Where terms become patterns -/

/-- The clause that a description holds a word. -/
def wordClause (word : String) : Clause :=
  .test (.like (.column "t" "description") (.text (Pattern.holding word)))

theorem exists_wordClauses {f : Filter} {cs : List Condition} (h : Condition.ofFilter f = .ok cs) :
    ∃ others, cs.map Condition.clause = f.words.map wordClause ++ others := by
  obtain ⟨range, -, h⟩ := bind_eq_ok.mp h
  obtain ⟨bounds, -, h⟩ := bind_eq_ok.mp h
  obtain ⟨created, -, h⟩ := bind_eq_ok.mp h
  obtain ⟨updated, -, h⟩ := bind_eq_ok.mp h
  rw [← Except.ok.inj h]
  simp only [List.append_assoc, List.map_append, List.map_map]
  exact ⟨_, rfl⟩

theorem exists_wordClauses_of_statement {f : Filter} {s : Statement}
    (h : countAll f = .ok s ∨ ∃ page pageSize, selectPage f page pageSize = .ok s) :
    ∃ selection ∈ s.selection?, ∃ others,
      selection.clauses = f.words.map wordClause ++ others := by
  rcases h with h | ⟨page, pageSize, h⟩
  · obtain ⟨cs, hcs, rfl⟩ := countAll_eq_ok.mp h
    exact ⟨_, selection?_countStatement cs, exists_wordClauses hcs⟩
  · obtain ⟨-, -, cs, hcs, rfl⟩ := selectPage_eq_ok.mp h
    exact ⟨_, selection?_selectStatement cs page pageSize, exists_wordClauses hcs⟩

/-- What is compared with a name in the statement of a lookup. -/
def nameTest (term : String) : List Token :=
  [.symbol "name", .symbol "ILIKE", .value (.text (Pattern.holding term))]

theorem exists_tokens_of_symbols {s : Statement} {term : String} (before after : List String)
    {vs : List Param} {opening rest : List Token}
    (hsymbols : symbols s.text.toList = before ++ (["name", "ILIKE", "%s"] ++ after))
    (hparams : s.params = .text (Pattern.holding term) :: vs)
    (hbefore : place? before [] = some opening) (hafter : place? after vs = some rest) :
    ∃ ts, place? (symbols s.text.toList) s.params = some ts ∧ nameTest term <:+: ts := by
  have hname : place? ["name", "ILIKE", "%s"] [.text (Pattern.holding term)] =
      some (nameTest term) := rfl
  have hplace : place? (before ++ (["name", "ILIKE", "%s"] ++ after))
      ([] ++ ([.text (Pattern.holding term)] ++ vs)) =
        some (opening ++ (nameTest term ++ rest)) := by
    rw [place?_append hbefore, place?_append hname, hafter]
    rfl
  refine ⟨_, ?_, ⟨opening, rest, List.append_assoc _ _ _⟩⟩
  rw [hsymbols, hparams]
  exact hplace

open Database in
/-- Every lookup in the database compares names with the pattern of its term. -/
theorem exists_tokens_lookupStatement (l : Lookup) :
    ∃ ts, place? (symbols (lookupStatement l).text.toList) (lookupStatement l).params = some ts ∧
      nameTest l.term <:+: ts := by
  obtain ⟨target, term, limit⟩ := l
  cases target with
  | accounts kinds =>
    exact exists_tokens_of_symbols
      ["SELECT", "id", ",", "name", ",", "account_type", "FROM", "accounts", "WHERE"] _
      symbols_accounts rfl rfl rfl
  | entities kind =>
    let before := ["SELECT", "id", ",", "name", "FROM", tableName kind, "WHERE"]
    have hbefore : ∃ opening, place? before [] = some opening := by
      cases kind <;> exact ⟨_, rfl⟩
    obtain ⟨opening, hopening⟩ := hbefore
    have hsymbols := symbols_entities kind
    cases limit with
    | none => exact exists_tokens_of_symbols before _ hsymbols rfl hopening rfl
    | some n =>
      have hlimited := (symbols_limit _).trans (congrArg (· ++ ["LIMIT", "%s"]) hsymbols)
      exact exists_tokens_of_symbols before _ hlimited rfl hopening rfl

/-! ## Terms and texts -/

/-- The pattern of the texts that hold a term is read as the characters of the term between two
percent signs, so no backslash dangles at its end. It is matched by the texts that hold the term and
by no other, and the same goes for any fold of characters that keeps the special ones. The words of
a filter and the terms of lookups are only ever compared through this pattern. -/
theorem matches_only_literally (fold : Char → Char) (hfold : Pattern.KeepsSpecial fold) :
    (∀ term : String,
      (Pattern.holding term).toList = '%' :: Pattern.escapeOnly '_'
        (Pattern.escapeOnly '%' (Pattern.escapeOnly '\\' term.toList)) ++ ['%'] ∧
      Pattern.parts? (Pattern.holding term).toList =
        some (.anyText :: (term.toList.map .exactly ++ [.anyText])) ∧
      ∀ text : String,
        (Pattern.like id (Pattern.holding term).toList text.toList = true ↔
          term.toList <:+: text.toList) ∧
        (Pattern.like fold (Pattern.holding term).toList text.toList = true ↔
          term.toList.map fold <:+: text.toList.map fold) ∧
        (Pattern.like id ((Pattern.holding term).toList.map fold) (text.toList.map fold) = true ↔
          term.toList.map fold <:+: text.toList.map fold)) ∧
    (∀ (f : Filter) (s : Statement),
      (countAll f = .ok s ∨ ∃ page pageSize, selectPage f page pageSize = .ok s) →
      ∃ selection ∈ s.selection?, ∃ others,
        selection.clauses = f.words.map wordClause ++ others) ∧
    ∀ l : Lookup, ∃ ts,
      place? (symbols (Database.lookupStatement l).text.toList)
        (Database.lookupStatement l).params = some ts ∧ nameTest l.term <:+: ts := by
  refine ⟨fun term => ⟨?_, Pattern.parts?_holding term, fun text => ⟨?_, ?_, ?_⟩⟩,
    fun f s => exists_wordClauses_of_statement, exists_tokens_lookupStatement⟩
  · rw [Pattern.holding, String.toList_ofList, Pattern.escape_eq_escapeOnly]
  · simpa using Pattern.like_holding id term text
  · exact Pattern.like_holding fold term text
  · exact Pattern.like_map_holding hfold term text

/-- A term of special characters only is found where it stands, in whatever case, and a low line of
a term is no other character. -/
theorem matches_only_literally_discount :
    Pattern.KeepsSpecial Char.toLower ∧
      Pattern.like Char.toLower (Pattern.holding "%_\\ OFF").toList "50%_\\ off".toList = true ∧
      Pattern.like id (Pattern.holding "a_b").toList "a_b".toList = true ∧
      ¬ Pattern.like id (Pattern.holding "a_b").toList "acb".toList = true := by
  obtain ⟨hterms, -, -⟩ := matches_only_literally Char.toLower Pattern.keepsSpecial_toLower
  obtain ⟨-, -, hdiscount⟩ := hterms "%_\\ OFF"
  obtain ⟨-, -, hline⟩ := hterms "a_b"
  exact ⟨Pattern.keepsSpecial_toLower, (hdiscount _).2.1.mpr (by decide +kernel),
    (hline _).1.mpr (by decide +kernel), (hline _).1.not.mpr (by decide +kernel)⟩

end LedgerSearch.Sql
