import LedgerSearch.Proofs.Query.Grammar

/-!
# The reader reads the grammar

* `lexeme_append`, `exists_lexeme`: the reader takes exactly the lexemes of the
  grammar off a text, or fails at the quote that is never closed.
* `nodes_of_cut`: a text that is cut up to a rest is read like the rest.
* `Cut.unique`: a text is cut as a whole in at most one way.
* `nodes_eq_ok_iff`, `nodes_eq_error_iff`: a text is read if and only if it is cut as a
  whole; otherwise the position reported is the one of the quote that is never closed.
* `nodes_append_blank`: texts with a blank between them are read one after another.
-/

namespace LedgerSearch.Query

open Text

/-! ## Quoted strings -/

theorem Quoted.ne_nil {body content : List Char} (h : Quoted body content) : body ≠ [] := by
  cases h <;> simp

theorem Quoted.read?_append {body content : List Char} (h : Quoted body content)
    (rest : List Char) : Quote.read? (body ++ rest) = some (content, rest) := by
  induction h with
  | close => exact Quote.read?_quote rest
  | escape _ ih =>
    rw [List.cons_append, List.cons_append, Quote.read?_escape, ih]
    rfl
  | plain hquote hescape hbody ih =>
    rw [List.cons_append, Quote.read?_cons hquote, ih]
    · rfl
    · intro hc hq
      obtain ⟨d, tail, rfl⟩ := List.exists_cons_of_ne_nil hbody.ne_nil
      exact hescape ⟨hc, hq⟩

theorem quoted_of_read? {cs content rest : List Char}
    (h : Quote.read? cs = some (content, rest)) :
    ∃ body, cs = body ++ rest ∧ Quoted body content := by
  fun_induction Quote.read? cs generalizing content with
  | case1 => cases h
  | case2 cs ih =>
    obtain ⟨⟨c, r⟩, hr, he⟩ := Option.map_eq_some_iff.mp h
    cases he
    obtain ⟨body, rfl, hbody⟩ := ih hr
    exact ⟨'\\' :: '"' :: body, rfl, .escape hbody⟩
  | case3 cs =>
    cases h
    exact ⟨['"'], rfl, .close⟩
  | case4 c cs hescape hquote ih =>
    obtain ⟨⟨c', r⟩, hr, he⟩ := Option.map_eq_some_iff.mp h
    cases he
    obtain ⟨body, rfl, hbody⟩ := ih hr
    refine ⟨c :: body, rfl, .plain hquote ?_ hbody⟩
    rintro ⟨hc, hq⟩
    obtain ⟨tail, rfl⟩ := List.head?_eq_some_iff.mp hq
    exact hescape (tail ++ rest) hc rfl

theorem read?_eq_none_iff {cs : List Char} :
    Quote.read? cs = none ↔
      ∀ closed content after, Quoted closed content → cs ≠ closed ++ after := by
  constructor
  · rintro h closed content after hclosed rfl
    rw [hclosed.read?_append] at h
    cases h
  · intro h
    cases hr : Quote.read? cs with
    | none => rfl
    | some p =>
      obtain ⟨body, hcs, hbody⟩ := quoted_of_read? hr
      exact absurd hcs (h body p.1 p.2 hbody)

/-! ## Names and runs -/

theorem takeWhile_append_cons {p : Char → Bool} {front : List Char} {c : Char}
    (hfront : ∀ d ∈ front, p d = true) (hc : p c = false) (rest : List Char) :
    (front ++ c :: rest).takeWhile p = front ∧ (front ++ c :: rest).dropWhile p = c :: rest := by
  rw [List.takeWhile_append_of_pos hfront, List.dropWhile_append_of_pos hfront]
  simp [hc]

theorem splitName?_append {name : List Char} (h : IsName name) (rest : List Char) :
    splitName? (name ++ ':' :: rest) = some (name, rest) := by
  have hcolon : isNamePart ':' = false := by decide
  have hsplit := takeWhile_append_cons h.all_isNamePart hcolon rest
  obtain ⟨c, tail, rfl, hc, -⟩ := h
  unfold splitName?
  rw [hsplit.1, hsplit.2]
  simp [hc]

theorem isName_of_splitName? {cs name rest : List Char} (h : splitName? cs = some (name, rest)) :
    IsName name ∧ cs = name ++ ':' :: rest := by
  refine ⟨?_, eq_of_splitName? h⟩
  unfold splitName? at h
  split at h
  · rename_i hhead
    split at h
    · cases h
      cases cs with
      | nil => simp at hhead
      | cons c tail =>
        simp only [List.head?_cons, Option.any_some] at hhead
        refine ⟨c, tail.takeWhile isNamePart, ?_, hhead, ?_⟩
        · rw [List.takeWhile_cons, isNamePart_of_isNameStart hhead]
          rfl
        · exact fun d hd => List.all_eq_true.mp List.all_takeWhile d hd
    · cases h
  · cases h

theorem run_append {value after : List Char} (hvalue : ∀ c ∈ value, isBlank c = false)
    (hafter : EndsRun after) :
    run (value ++ after) = value ∧ afterRun (value ++ after) = after := by
  have hpos : ∀ c ∈ value, (!isBlank c) = true := fun c hc => by rw [hvalue c hc]; rfl
  unfold run afterRun
  cases after with
  | nil => rw [List.takeWhile_append_of_pos hpos, List.dropWhile_append_of_pos hpos]; simp
  | cons c tail => exact takeWhile_append_cons hpos (by simp [hafter c rfl]) tail

theorem run_append_afterRun (cs : List Char) : run cs ++ afterRun cs = cs :=
  List.takeWhile_append_dropWhile

theorem isBlank_of_mem_run {cs : List Char} {c : Char} (h : c ∈ run cs) : isBlank c = false := by
  simpa using List.all_eq_true.mp List.all_takeWhile c h

theorem endsRun_afterRun (cs : List Char) : EndsRun (afterRun cs) := by
  intro c hc
  have := List.head?_dropWhile_not (!isBlank ·) cs
  unfold afterRun at hc
  rw [hc] at this
  simpa using this

theorem head?_run_ne {cs : List Char} {c : Char} (h : cs.head? ≠ some c) :
    (run cs).head? ≠ some c := by
  cases cs with
  | nil => simp [run]
  | cons d tail =>
    unfold run
    rw [List.takeWhile_cons]
    split
    · exact h
    · simp

/-! ## Lexemes -/

theorem lexeme_quote (body : List Char) :
    lexeme ('"' :: body) =
      match Quote.read? body with
      | some (content, rest) => .ok (phrase? content, rest)
      | none => .error 0 := rfl

theorem lexeme_name_quote {name : List Char} (h : IsName name) (body : List Char) :
    lexeme (name ++ ':' :: '"' :: body) =
      match Quote.read? body with
      | some (content, rest) =>
        .ok (some (fieldOrWord name content (name ++ [':', '"', '"'])), rest)
      | none => .error (name.length + 1) := by
  unfold lexeme
  split
  · rename_i hcs
    exact absurd (by rw [hcs]; rfl) h.head?_append_ne
  · rw [splitName?_append h]
    rfl

theorem lexeme_name {name value : List Char} (h : IsName name) (hvalue : value.head? ≠ some '"') :
    lexeme (name ++ ':' :: value) =
      .ok (some (fieldOrWord name (run value) (name ++ [':'])), afterRun value) := by
  unfold lexeme
  split
  · rename_i hcs
    exact absurd (by rw [hcs]; rfl) h.head?_append_ne
  · rw [splitName?_append h]
    split
    · rename_i heq
      simp only [Option.some.injEq, Prod.mk.injEq] at heq
      exact absurd (by rw [heq.2]; rfl) hvalue
    · rename_i heq
      simp only [Option.some.injEq, Prod.mk.injEq] at heq
      rw [heq.1, heq.2]
    · rename_i heq
      cases heq

theorem lexeme_run {cs : List Char} (hquote : cs.head? ≠ some '"') (hname : splitName? cs = none) :
    lexeme cs = .ok (some (.word (String.ofList (run cs))), afterRun cs) := by
  unfold lexeme
  split
  · exact absurd rfl hquote
  · rw [hname]

/-- A run without a name and a colon at its beginning gets none from what follows it, since that
begins with a blank. -/
theorem splitName?_append_eq_none {cs after : List Char} (hcs : ∀ name value, IsName name →
    cs ≠ name ++ ':' :: value) (hafter : EndsRun after) : splitName? (cs ++ after) = none := by
  cases h : splitName? (cs ++ after) with
  | none => rfl
  | some p =>
    obtain ⟨hname, heq⟩ := isName_of_splitName? h
    rcases List.append_eq_append_iff.mp heq with ⟨front, hfront, hrest⟩ | ⟨front, hfront, hrest⟩
    · cases front with
      | nil => exact absurd (hafter ':' (by rw [hrest]; rfl)) (by decide)
      | cons c tail =>
        have hc := isBlank_of_isNamePart (hname.all_isNamePart c (by simp [hfront]))
        rw [hafter c (by rw [hrest]; rfl)] at hc
        cases hc
    · cases front with
      | nil => exact absurd (hafter ':' (by rw [← List.nil_append after, ← hrest]; rfl)) (by decide)
      | cons c tail =>
        obtain ⟨rfl, -⟩ := List.cons.inj hrest
        exact absurd hfront (hcs p.1 tail hname)

/-- A lexeme of the grammar is read off the text before which it stands. -/
theorem lexeme_append {source after : List Char} {node : Option Node}
    (h : Lexeme after source node) : lexeme (source ++ after) = .ok (node, after) := by
  cases h with
  | phrase hbody hcontent =>
    obtain ⟨c, hc, hblank⟩ := hcontent
    rw [List.cons_append, lexeme_quote, hbody.read?_append]
    simp only [phrase?, List.all_eq_true]
    rw [if_neg fun hall => Bool.false_ne_true (hblank ▸ hall c hc)]
  | blankPhrase hbody hcontent =>
    rw [List.cons_append, lexeme_quote, hbody.read?_append]
    simp only [phrase?, List.all_eq_true, if_pos hcontent]
  | quotedField hname hbody hcontent =>
    rw [List.append_assoc, List.cons_append, List.cons_append, lexeme_name_quote hname,
      hbody.read?_append]
    simp [fieldOrWord, hcontent]
  | emptyQuotedField hname hbody =>
    cases hbody
    rw [List.append_assoc, List.cons_append, List.cons_append, lexeme_name_quote hname,
      Quoted.close.read?_append]
    rfl
  | field hname hne hquote hvalue hafter =>
    obtain ⟨hrun, hrest⟩ := run_append hvalue hafter
    rw [List.append_assoc, List.cons_append, lexeme_name hname, hrun, hrest]
    · simp [fieldOrWord, hne]
    · obtain ⟨c, tail, rfl⟩ := List.exists_cons_of_ne_nil hne
      exact hquote
  | emptyField hname hafter =>
    have hnone : ∀ c ∈ ([] : List Char), isBlank c = false := by simp
    obtain ⟨hrun, hrest⟩ := run_append hnone hafter
    rw [List.nil_append] at hrun hrest
    rw [List.append_assoc, List.singleton_append, lexeme_name hname]
    · rw [hrun, hrest]
      rfl
    · exact fun hq => absurd (hafter '"' hq) (by decide)
  | word hne hquote hname hcs hafter =>
    obtain ⟨hrun, hrest⟩ := run_append hcs hafter
    rw [lexeme_run _ (splitName?_append_eq_none hname hafter), hrun, hrest]
    obtain ⟨c, tail, rfl⟩ := List.exists_cons_of_ne_nil hne
    exact hquote

theorem lexeme_of_opensUnclosed {cs : List Char} {position : Nat} (h : OpensUnclosed cs position) :
    lexeme cs = .error position := by
  obtain ⟨front, body, rfl, rfl, hfront, hbody⟩ := h
  have hread : Quote.read? body = none := read?_eq_none_iff.mpr hbody
  rcases hfront with rfl | ⟨name, hname, rfl⟩
  · rw [List.nil_append, lexeme_quote, hread]
    rfl
  · rw [List.append_assoc, List.singleton_append, lexeme_name_quote hname, hread]
    simp

/-- A text that begins with no blank begins with a lexeme or opens a quote that is never closed. -/
theorem exists_lexeme {cs : List Char} (h : BeginsLexeme cs) :
    (∃ source after node, cs = source ++ after ∧ Lexeme after source node) ∨
      ∃ position, OpensUnclosed cs position := by
  by_cases hquote : cs.head? = some '"'
  · obtain ⟨body, rfl⟩ := List.head?_eq_some_iff.mp hquote
    cases hread : Quote.read? body with
    | none => exact Or.inr ⟨0, [], body, rfl, rfl, Or.inl rfl, read?_eq_none_iff.mp hread⟩
    | some p =>
      obtain ⟨closed, rfl, hclosed⟩ := quoted_of_read? hread
      refine Or.inl ⟨'"' :: closed, p.2, ?_⟩
      by_cases hcontent : ∀ c ∈ p.1, isBlank c = true
      · exact ⟨none, rfl, .blankPhrase hclosed hcontent⟩
      · exact ⟨_, rfl, .phrase hclosed (by simpa using hcontent)⟩
  cases hsplit : splitName? cs with
  | none =>
    refine Or.inl ⟨run cs, afterRun cs, _, (run_append_afterRun cs).symm, .word ?_ ?_ ?_ ?_ ?_⟩
    · obtain ⟨c, tail, rfl, hc⟩ := h
      simp [run, hc]
    · exact head?_run_ne hquote
    · intro name value hname hrun
      rw [← run_append_afterRun cs, hrun, List.append_assoc, List.cons_append,
        splitName?_append hname] at hsplit
      cases hsplit
    · exact fun c hc => isBlank_of_mem_run hc
    · exact endsRun_afterRun cs
  | some p =>
    obtain ⟨name, value⟩ := p
    obtain ⟨hname, rfl⟩ := isName_of_splitName? hsplit
    by_cases hvalue : value.head? = some '"'
    · obtain ⟨body, rfl⟩ := List.head?_eq_some_iff.mp hvalue
      cases hread : Quote.read? body with
      | none =>
        refine Or.inr ⟨(name ++ [':']).length, name ++ [':'], body, ?_, rfl,
          Or.inr ⟨name, hname, rfl⟩, read?_eq_none_iff.mp hread⟩
        rw [List.append_assoc]
        rfl
      | some p =>
        obtain ⟨closed, rfl, hclosed⟩ := quoted_of_read? hread
        refine Or.inl ⟨name ++ ':' :: '"' :: closed, p.2, ?_⟩
        rw [List.append_assoc]
        by_cases hcontent : p.1 = []
        · exact ⟨_, rfl, .emptyQuotedField hname (hcontent ▸ hclosed)⟩
        · exact ⟨_, rfl, .quotedField hname hclosed hcontent⟩
    · refine Or.inl ⟨name ++ ':' :: run value, afterRun value, ?_⟩
      rw [List.append_assoc, List.cons_append, run_append_afterRun]
      by_cases hrun : run value = []
      · rw [hrun]
        exact ⟨_, rfl, .emptyField hname (endsRun_afterRun value)⟩
      · exact ⟨_, rfl, .field hname hrun (head?_run_ne hvalue) (fun c hc => isBlank_of_mem_run hc)
          (endsRun_afterRun value)⟩

/-! ## Whole texts -/

theorem nodes_append_lexeme {source after : List Char} {node : Option Node}
    (h : Lexeme after source node) :
    nodes (source ++ after) =
      match nodes after with
      | .ok more => .ok (node.toList ++ more)
      | .error offset => .error (source.length + offset) := by
  have hlexeme := lexeme_append h
  obtain ⟨c, tail, rfl, hc⟩ := h.beginsLexeme
  have hlength : (c :: (tail ++ after)).length - after.length = (c :: tail).length := by
    simp only [List.length_cons, List.length_append]
    omega
  rw [List.cons_append] at hlexeme ⊢
  have hnodes := nodes_lexeme hc hlexeme
  rw [hlength] at hnodes
  exact hnodes

theorem nodes_of_opensUnclosed {cs : List Char} {position : Nat} (h : OpensUnclosed cs position) :
    nodes cs = .error position := by
  obtain ⟨c, tail, rfl, hc⟩ := h.beginsLexeme
  exact nodes_lexeme_error hc (lexeme_of_opensUnclosed h)

/-- A text that is cut up to a rest is read like the rest, behind the nodes of the pieces. -/
theorem nodes_of_cut {cs rest : List Char} {ps : List Piece} (h : Cut cs ps rest) :
    nodes cs =
      match nodes rest with
      | .ok more => .ok (ps.filterMap Piece.node? ++ more)
      | .error offset => .error ((ps.flatMap Piece.source).length + offset) := by
  induction h with
  | nil => cases nodes _ <;> simp
  | @blank c cs rest ps hc _ ih =>
    rw [nodes_blank hc, ih]
    cases nodes rest with
    | ok more => rfl
    | error offset =>
      change Except.error (1 + ((ps.flatMap Piece.source).length + offset)) = _
      simp [Piece.source, Nat.add_assoc, Nat.add_comm 1]
  | @lexeme source cs rest node ps hlexeme _ ih =>
    rw [nodes_append_lexeme hlexeme, ih]
    cases nodes rest with
    | ok more => cases node <;> simp [List.filterMap_cons, Piece.node?]
    | error offset => simp [Piece.source, Nat.add_assoc]

/-- A text is cut as a whole, or up to a quote that is never closed. -/
theorem exists_cut (cs : List Char) :
    (∃ ps, Cut cs ps []) ∨ ∃ position, Unclosed cs position := by
  induction hn : cs.length using Nat.strongRecOn generalizing cs with
  | _ n ih =>
    subst hn
    -- the first piece in front of a cut of the rest
    have hcons : ∀ (rest : List Char) (p : Piece), rest.length < cs.length →
        (∀ {ps : List Piece} {rest' : List Char}, Cut rest ps rest' → Cut cs (p :: ps) rest') →
        (∃ ps, Cut cs ps []) ∨ ∃ position, Unclosed cs position := by
      intro rest p hlt hcut
      rcases ih rest.length hlt rest rfl with ⟨ps, hps⟩ | ⟨position, ps, r, offset, hps, hopen, -⟩
      · exact Or.inl ⟨p :: ps, hcut hps⟩
      · exact Or.inr ⟨_, p :: ps, r, offset, hcut hps, hopen, rfl⟩
    cases cs with
    | nil => exact Or.inl ⟨[], .nil⟩
    | cons c tail =>
      cases hc : isBlank c with
      | true => exact hcons tail (.blank c) (by simp) fun h => .blank hc h
      | false =>
        rcases exists_lexeme ⟨c, tail, rfl, hc⟩ with
          ⟨source, after, node, heq, hlexeme⟩ | ⟨position, hopen⟩
        · refine hcons after (.lexeme source node) ?_ fun h => ?_
          · obtain ⟨d, front, rfl, -⟩ := hlexeme.beginsLexeme
            rw [heq, List.length_append, List.length_cons]
            omega
          · rw [heq]
            exact .lexeme hlexeme h
        · exact Or.inr ⟨_, [], c :: tail, position, .nil, hopen, rfl⟩

theorem Lexeme.unique {source₁ after₁ source₂ after₂ : List Char} {node₁ node₂ : Option Node}
    (h₁ : Lexeme after₁ source₁ node₁) (h₂ : Lexeme after₂ source₂ node₂)
    (heq : source₁ ++ after₁ = source₂ ++ after₂) :
    source₁ = source₂ ∧ after₁ = after₂ ∧ node₁ = node₂ := by
  have h := lexeme_append h₁
  rw [heq, lexeme_append h₂] at h
  obtain ⟨rfl, rfl⟩ := Prod.mk.inj (Except.ok.inj h)
  exact ⟨List.append_cancel_right heq, rfl, rfl⟩

theorem Cut.unique {cs : List Char} {ps qs : List Piece} (h₁ : Cut cs ps []) (h₂ : Cut cs qs []) :
    ps = qs := by
  generalize hrest : ([] : List Char) = rest at h₁
  induction h₁ generalizing qs with
  | nil =>
    subst hrest
    generalize hcs : ([] : List Char) = cs at h₂
    cases h₂ with
    | nil => rfl
    | blank => cases hcs
    | lexeme hlexeme =>
      obtain ⟨c, tail, rfl, -⟩ := hlexeme.beginsLexeme
      cases hcs
  | @blank c cs rest ps hc _ ih =>
    generalize hcs : c :: cs = text at h₂
    cases h₂ with
    | nil => cases hcs
    | blank _ h =>
      cases hcs
      rw [ih h hrest]
    | lexeme hlexeme =>
      obtain ⟨d, tail, rfl, hd⟩ := hlexeme.beginsLexeme
      cases hcs
      rw [hc] at hd
      cases hd
  | @lexeme source cs rest node ps hlexeme _ ih =>
    generalize hcs : source ++ cs = text at h₂
    cases h₂ with
    | nil =>
      obtain ⟨c, tail, rfl, -⟩ := hlexeme.beginsLexeme
      cases hcs
    | blank hd =>
      obtain ⟨c, tail, rfl, hc⟩ := hlexeme.beginsLexeme
      cases hcs
      rw [hd] at hc
      cases hc
    | lexeme hlexeme' h =>
      obtain ⟨rfl, rfl, rfl⟩ := hlexeme.unique hlexeme' hcs
      rw [ih h hrest]

theorem nodes_of_cut_nil {cs : List Char} {ps : List Piece} (h : Cut cs ps []) :
    nodes cs = .ok (ps.filterMap Piece.node?) := by
  rw [nodes_of_cut h, nodes_nil]
  simp

theorem nodes_of_unclosed {cs : List Char} {position : Nat} (h : Unclosed cs position) :
    nodes cs = .error position := by
  obtain ⟨ps, rest, offset, hcut, hopen, rfl⟩ := h
  rw [nodes_of_cut hcut, nodes_of_opensUnclosed hopen]

theorem nodes_eq_ok_iff {cs : List Char} {ns : List Node} :
    nodes cs = .ok ns ↔ ∃ ps, Cut cs ps [] ∧ ns = ps.filterMap Piece.node? := by
  constructor
  · intro h
    rcases exists_cut cs with ⟨ps, hps⟩ | ⟨position, hopen⟩
    · exact ⟨ps, hps, Except.ok.inj (h ▸ nodes_of_cut_nil hps)⟩
    · rw [nodes_of_unclosed hopen] at h
      cases h
  · rintro ⟨ps, hps, rfl⟩
    exact nodes_of_cut_nil hps

theorem nodes_eq_error_iff {cs : List Char} {position : Nat} :
    nodes cs = .error position ↔ Unclosed cs position := by
  constructor
  · intro h
    rcases exists_cut cs with ⟨ps, hps⟩ | ⟨position', hopen⟩
    · rw [nodes_of_cut_nil hps] at h
      cases h
    · rw [nodes_of_unclosed hopen] at h
      exact Except.error.inj h ▸ hopen
  · exact nodes_of_unclosed

/-! ## The whole text -/

theorem parse_of_nodes {text : String} {ns : List Node} (h : nodes text.toList = .ok ns) :
    parse text = .ok ns :=
  congrArg (Except.mapError SyntaxError.unterminatedQuote) h

theorem parse_of_nodes_error {text : String} {position : Nat}
    (h : nodes text.toList = .error position) :
    parse text = .error (.unterminatedQuote position) :=
  congrArg (Except.mapError SyntaxError.unterminatedQuote) h

theorem parse_eq_ok_iff {text : String} {ns : List Node} :
    parse text = .ok ns ↔ nodes text.toList = .ok ns := by
  constructor
  · intro h
    cases hn : nodes text.toList with
    | ok ms =>
      rw [parse_of_nodes hn] at h
      exact congrArg Except.ok (Except.ok.inj h)
    | error offset =>
      rw [parse_of_nodes_error hn] at h
      cases h
  · exact parse_of_nodes

theorem parse_eq_error_iff {text : String} {position : Nat} :
    parse text = .error (.unterminatedQuote position) ↔ nodes text.toList = .error position := by
  constructor
  · intro h
    cases hn : nodes text.toList with
    | ok ms =>
      rw [parse_of_nodes hn] at h
      cases h
    | error offset =>
      rw [parse_of_nodes_error hn] at h
      cases h
      rfl
  · exact parse_of_nodes_error

/-- Reading accepts exactly the grammar. A text is cut into blanks and lexemes in at most one way;
if it is, it is read as the nodes of its lexemes, and else it fails at the quote up to which it is
cut and that is never closed. -/
theorem parse_accepts_grammar (text : String) :
    (∀ ps qs, Cut text.toList ps [] → Cut text.toList qs [] → ps = qs) ∧
    (∀ ns, parse text = .ok ns ↔
      ∃ ps, Cut text.toList ps [] ∧ ns = ps.filterMap Piece.node?) ∧
    ∀ position, parse text = .error (.unterminatedQuote position) ↔
      Unclosed text.toList position := by
  refine ⟨fun ps qs h₁ h₂ => h₁.unique h₂, fun ns => ?_, fun position => ?_⟩
  · rw [parse_eq_ok_iff, nodes_eq_ok_iff]
  · rw [parse_eq_error_iff, nodes_eq_error_iff]

/-! ## Joined texts -/

/-- A text whose first lexeme and rest are read. -/
theorem nodes_of_lexeme {cs rest : List Char} {c : Char} {node : Option Node} {ms : List Node}
    (hhead : cs.head? = some c) (hc : isBlank c = false) (hlexeme : lexeme cs = .ok (node, rest))
    (hrest : nodes rest = .ok ms) : nodes cs = .ok (node.toList ++ ms) := by
  obtain ⟨tail, rfl⟩ := List.head?_eq_some_iff.mp hhead
  rw [nodes_lexeme hc hlexeme, hrest]

/-- A text that is read and goes on with a blank is read like what follows the blank, behind its own
nodes. -/
theorem nodes_append_blank {cs : List Char} {ns : List Node} (h : nodes cs = .ok ns) {c : Char}
    (hc : isBlank c = true) (more : List Char) :
    nodes (cs ++ c :: more) =
      match nodes more with
      | .ok ms => .ok (ns ++ ms)
      | .error offset => .error (cs.length + 1 + offset) := by
  obtain ⟨ps, hps, rfl⟩ := nodes_eq_ok_iff.mp h
  have hlength : (ps.flatMap Piece.source).length = cs.length := by
    rw [hps.eq_append, List.append_nil]
  rw [nodes_of_cut (hps.append_blank hc more), List.nil_append, nodes_blank hc, hlength]
  cases nodes more with
  | ok ms => rfl
  | error offset => exact congrArg Except.error (Nat.add_assoc cs.length 1 offset).symm

theorem parse_append {text : String} {ns : List Node} (h : parse text = .ok ns) {c : Char}
    (hc : isBlank c = true) (more : String) :
    parse (text ++ String.singleton c ++ more) =
      match parse more with
      | .ok ms => .ok (ns ++ ms)
      | .error (.unterminatedQuote position) =>
        .error (.unterminatedQuote (text.length + 1 + position)) := by
  have hchars : (text ++ String.singleton c ++ more).toList = text.toList ++ c :: more.toList := by
    rw [String.toList_append, String.toList_append, String.toList_singleton, List.append_assoc]
    rfl
  have hjoined := nodes_append_blank (parse_eq_ok_iff.mp h) hc more.toList
  rw [← hchars] at hjoined
  cases hmore : nodes more.toList with
  | ok ms =>
    rw [hmore] at hjoined
    rw [parse_of_nodes hjoined, parse_of_nodes hmore]
  | error position =>
    rw [hmore] at hjoined
    rw [parse_of_nodes_error hjoined, parse_of_nodes_error hmore, String.length_toList]

/-- Texts with a space between them are read one after another. -/
theorem parse_append_space {text more : String} {ns ms : List Node} (htext : parse text = .ok ns)
    (hmore : parse more = .ok ms) : parse (text ++ " " ++ more) = .ok (ns ++ ms) := by
  have hspace : isBlank ' ' = true := by decide
  have hjoined := parse_append htext hspace more
  rwa [hmore] at hjoined

/-- A text that is read, and goes on with a blank, is read on its own: what follows the blank adds
its nodes, or fails as it does alone, at a position that counts from the beginning of the whole. -/
theorem parse_compositional_over_blank {text : String} {ns : List Node} (h : parse text = .ok ns)
    {c : Char} (hc : isBlank c = true) (more : String) :
    (∀ ms, parse more = .ok ms → parse (text ++ String.singleton c ++ more) = .ok (ns ++ ms)) ∧
    ∀ position, parse more = .error (.unterminatedQuote position) →
      parse (text ++ String.singleton c ++ more) =
        .error (.unterminatedQuote (text.length + 1 + position)) := by
  have hjoined := parse_append h hc more
  constructor
  · intro ms hmore
    rw [hjoined, hmore]
  · intro position hmore
    rw [hjoined, hmore]

/-- A name and a colon stay a word in front of an em space, although a quote follows it, closed or
not. -/
theorem parse_compositional_over_blank_category :
    parse ("category:" ++ String.singleton '\u2003' ++ "\"eating out\"") =
      .ok [.word "category:", .phrase "eating out"] ∧
    parse ("category:" ++ String.singleton '\u2003' ++ "a \"b") =
      .error (.unterminatedQuote 12) := by
  have hname : lexeme "category:".toList = .ok (some (.word "category:"), []) := rfl
  have hphrase : lexeme "\"eating out\"".toList = .ok (some (.phrase "eating out"), []) := rfl
  have hword : lexeme "a \"b".toList = .ok (some (.word "a"), [' ', '"', 'b']) := rfl
  have hquote : lexeme ['"', 'b'] = .error 0 := rfl
  have htext : parse "category:" = .ok [.word "category:"] :=
    parse_of_nodes (nodes_of_lexeme rfl (by decide) hname nodes_nil)
  have hblank : isBlank '\u2003' = true := by decide
  refine ⟨(parse_compositional_over_blank htext hblank _).1 _ ?_,
    (parse_compositional_over_blank htext hblank _).2 2 ?_⟩
  · exact parse_of_nodes (nodes_of_lexeme rfl (by decide) hphrase nodes_nil)
  · have hrest : nodes [' ', '"', 'b'] = .error 1 := by
      rw [nodes_blank (by decide), nodes_lexeme_error (by decide) hquote]
      rfl
    refine parse_of_nodes_error ?_
    exact (nodes_lexeme (by decide) hword).trans (by rw [hrest]; rfl)

end LedgerSearch.Query
