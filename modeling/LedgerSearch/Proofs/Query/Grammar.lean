import LedgerSearch.Query.Lexer

/-!
# The grammar of queries

The grammar says which texts are queries and what they stand for, without a
reader: a text is cut into blanks and lexemes, and a lexeme is one of the seven
forms of `Lexeme`. A run of characters has to be maximal, so whether a text is a
lexeme depends on what follows it.

* `Lexeme.beginsLexeme`: a lexeme begins with a character that is not blank.
* `Cut.eq_append`: a text is its pieces and the rest.
* `Cut.append_blank`: no piece of a text changes when the text goes on with a blank.
-/

namespace LedgerSearch.Query

open Text

/-- What stands after an opening quote, the closing quote included, and its content. A backslash
directly before a quote is never a unit of its own, not even before the closing one. -/
inductive Quoted : List Char → List Char → Prop
  | close : Quoted ['"'] []
  | escape {body content : List Char} (h : Quoted body content) :
      Quoted ('\\' :: '"' :: body) ('"' :: content)
  | plain {c : Char} {body content : List Char} (hquote : c ≠ '"')
      (hescape : ¬ (c = '\\' ∧ body.head? = some '"')) (h : Quoted body content) :
      Quoted (c :: body) (c :: content)

/-- An ASCII letter or low line, followed by letters, digits and low lines. -/
def IsName (cs : List Char) : Prop :=
  ∃ c tail, cs = c :: tail ∧ isNameStart c = true ∧ ∀ d ∈ tail, isNamePart d = true

/-- A run of characters that are not blank ends before this text. -/
def EndsRun (after : List Char) : Prop :=
  ∀ c, after.head? = some c → isBlank c = true

/-- The lexemes that may stand before the text `after`, and their nodes. -/
inductive Lexeme (after : List Char) : List Char → Option Node → Prop
  | phrase {body content : List Char} (hbody : Quoted body content)
      (hcontent : ∃ c ∈ content, isBlank c = false) :
      Lexeme after ('"' :: body) (some (.phrase (String.ofList content)))
  | blankPhrase {body content : List Char} (hbody : Quoted body content)
      (hcontent : ∀ c ∈ content, isBlank c = true) :
      Lexeme after ('"' :: body) none
  | quotedField {name body content : List Char} (hname : IsName name)
      (hbody : Quoted body content) (hcontent : content ≠ []) :
      Lexeme after (name ++ ':' :: '"' :: body)
        (some (.field (String.ofList (name.map Char.toLower)) (String.ofList content)))
  | emptyQuotedField {name body : List Char} (hname : IsName name) (hbody : Quoted body []) :
      Lexeme after (name ++ ':' :: '"' :: body)
        (some (.word (String.ofList (name ++ ':' :: '"' :: body))))
  | field {name value : List Char} (hname : IsName name) (hne : value ≠ [])
      (hquote : value.head? ≠ some '"') (hvalue : ∀ c ∈ value, isBlank c = false)
      (hafter : EndsRun after) :
      Lexeme after (name ++ ':' :: value)
        (some (.field (String.ofList (name.map Char.toLower)) (String.ofList value)))
  | emptyField {name : List Char} (hname : IsName name) (hafter : EndsRun after) :
      Lexeme after (name ++ [':']) (some (.word (String.ofList (name ++ [':']))))
  | word {cs : List Char} (hne : cs ≠ []) (hquote : cs.head? ≠ some '"')
      (hname : ∀ name value, IsName name → cs ≠ name ++ ':' :: value)
      (hcs : ∀ c ∈ cs, isBlank c = false) (hafter : EndsRun after) :
      Lexeme after cs (some (.word (String.ofList cs)))

/-- A part of a text: a blank, or a lexeme with its node. -/
inductive Piece where
  | blank (c : Char)
  | lexeme (source : List Char) (node : Option Node)

/-- The characters of a piece. -/
def Piece.source : Piece → List Char
  | .blank c => [c]
  | .lexeme source _ => source

/-- The node of a piece, if it has one. -/
def Piece.node? : Piece → Option Node
  | .blank _ => none
  | .lexeme _ node => node

/-- The text begins with the pieces, and `rest` is what follows them. -/
inductive Cut : List Char → List Piece → List Char → Prop
  | nil {cs : List Char} : Cut cs [] cs
  | blank {c : Char} {cs rest : List Char} {ps : List Piece} (hc : isBlank c = true)
      (h : Cut cs ps rest) : Cut (c :: cs) (.blank c :: ps) rest
  | lexeme {source cs rest : List Char} {node : Option Node} {ps : List Piece}
      (hlexeme : Lexeme cs source node) (h : Cut cs ps rest) :
      Cut (source ++ cs) (.lexeme source node :: ps) rest

/-- The text begins with a quoted string, or with a name, a colon and a quoted string, whose opening
quote stands at `position` and is never closed. -/
def OpensUnclosed (cs : List Char) (position : Nat) : Prop :=
  ∃ front body, cs = front ++ '"' :: body ∧ position = front.length ∧
    (front = [] ∨ ∃ name, IsName name ∧ front = name ++ [':']) ∧
    ∀ closed content after, Quoted closed content → body ≠ closed ++ after

/-- The text is cut up to a quote at `position` that is never closed. -/
def Unclosed (cs : List Char) (position : Nat) : Prop :=
  ∃ ps rest offset, Cut cs ps rest ∧ OpensUnclosed rest offset ∧
    position = (ps.flatMap Piece.source).length + offset

/-! ## Characters of names -/

theorem isBlank_of_isNamePart {c : Char} (h : isNamePart c = true) : isBlank c = false := by
  change (decide ('A'.val ≤ c.val ∧ c.val ≤ 'Z'.val) ||
    (decide ('a'.val ≤ c.val) && decide (c.val ≤ 'z'.val)) ||
    (decide ('0'.val ≤ c.val) && decide (c.val ≤ '9'.val)) || c == '_') = true at h
  simp only [Bool.or_eq_true, Bool.and_eq_true, decide_eq_true_eq, beq_iff_eq] at h
  rcases h with ((⟨h₁, h₂⟩ | ⟨h₁, h₂⟩) | ⟨h₁, h₂⟩) | rfl
  case inr => decide
  all_goals
    have h₁ := UInt32.le_iff_toNat_le.mp h₁
    have h₂ := UInt32.le_iff_toNat_le.mp h₂
    simp only [UInt32.reduceToNat, Char.reduceVal] at h₁ h₂
    simp only [isBlank, Char.toNat]
    grind

theorem isNamePart_of_isNameStart {c : Char} (h : isNameStart c = true) : isNamePart c = true := by
  simp only [isNameStart, isNamePart, Char.isAlphanum, Bool.or_eq_true] at h ⊢
  rcases h with h | h
  · exact Or.inl (Or.inl h)
  · exact Or.inr h

theorem IsName.all_isNamePart {name : List Char} (h : IsName name) :
    ∀ c ∈ name, isNamePart c = true := by
  obtain ⟨c, tail, rfl, hc, htail⟩ := h
  intro d hd
  rcases List.mem_cons.mp hd with rfl | hd
  · exact isNamePart_of_isNameStart hc
  · exact htail d hd

theorem IsName.head?_append_ne {name rest : List Char} (h : IsName name) :
    (name ++ rest).head? ≠ some '"' := by
  obtain ⟨c, tail, rfl, hc, -⟩ := h
  intro hq
  simp only [List.cons_append, List.head?_cons, Option.some.injEq] at hq
  subst hq
  exact absurd hc (by decide)

/-! ## Beginnings of lexemes -/

/-- A text that begins with a character that is not blank. -/
def BeginsLexeme (cs : List Char) : Prop :=
  ∃ c tail, cs = c :: tail ∧ isBlank c = false

theorem beginsLexeme_quote (body : List Char) : BeginsLexeme ('"' :: body) :=
  ⟨'"', body, rfl, by decide⟩

theorem IsName.beginsLexeme {name : List Char} (h : IsName name) (rest : List Char) :
    BeginsLexeme (name ++ rest) := by
  obtain ⟨c, tail, rfl, hc, -⟩ := h
  exact ⟨c, tail ++ rest, rfl, isBlank_of_isNamePart (isNamePart_of_isNameStart hc)⟩

theorem Lexeme.beginsLexeme {after source : List Char} {node : Option Node}
    (h : Lexeme after source node) : BeginsLexeme source := by
  cases h with
  | phrase => exact beginsLexeme_quote _
  | blankPhrase => exact beginsLexeme_quote _
  | quotedField hname => exact hname.beginsLexeme _
  | emptyQuotedField hname => exact hname.beginsLexeme _
  | field hname => exact hname.beginsLexeme _
  | emptyField hname => exact hname.beginsLexeme _
  | word hne _ _ hcs =>
    obtain ⟨c, tail, rfl⟩ := List.exists_cons_of_ne_nil hne
    exact ⟨c, tail, rfl, hcs c List.mem_cons_self⟩

theorem OpensUnclosed.beginsLexeme {cs : List Char} {position : Nat}
    (h : OpensUnclosed cs position) : BeginsLexeme cs := by
  obtain ⟨front, body, rfl, -, rfl | ⟨name, hname, rfl⟩, -⟩ := h
  · exact beginsLexeme_quote body
  · rw [List.append_assoc]
    exact hname.beginsLexeme _

/-! ## Ends of runs -/

theorem endsRun_nil : EndsRun [] := by
  intro c hc
  cases hc

theorem endsRun_blank {c : Char} (hc : isBlank c = true) (cs : List Char) : EndsRun (c :: cs) := by
  intro d hd
  cases hd
  exact hc

/-- What ends a run still does so when it goes on with a blank. -/
theorem EndsRun.append_blank {after : List Char} (h : EndsRun after) {c : Char}
    (hc : isBlank c = true) (cs : List Char) : EndsRun (after ++ c :: cs) := by
  cases after with
  | nil => exact endsRun_blank hc cs
  | cons d tail => exact endsRun_blank (h d rfl) (tail ++ c :: cs)

/-- A lexeme depends on what follows it only through the end of a run. -/
theorem Lexeme.congr {after other source : List Char} {node : Option Node}
    (h : Lexeme after source node) (hother : EndsRun after → EndsRun other) :
    Lexeme other source node := by
  cases h with
  | phrase hbody hcontent => exact .phrase hbody hcontent
  | blankPhrase hbody hcontent => exact .blankPhrase hbody hcontent
  | quotedField hname hbody hcontent => exact .quotedField hname hbody hcontent
  | emptyQuotedField hname hbody => exact .emptyQuotedField hname hbody
  | field hname hne hquote hvalue hafter => exact .field hname hne hquote hvalue (hother hafter)
  | emptyField hname hafter => exact .emptyField hname (hother hafter)
  | word hne hquote hname hcs hafter => exact .word hne hquote hname hcs (hother hafter)

/-! ## Cuts -/

theorem Cut.eq_append {cs rest : List Char} {ps : List Piece} (h : Cut cs ps rest) :
    cs = ps.flatMap Piece.source ++ rest := by
  induction h with
  | nil => rfl
  | blank _ _ ih => rw [ih]; rfl
  | lexeme _ _ ih => rw [ih, List.flatMap_cons, List.append_assoc]; rfl

/-- A text that goes on with a blank is cut as before, up to what is added. -/
theorem Cut.append_blank {cs rest : List Char} {ps : List Piece} (h : Cut cs ps rest) {c : Char}
    (hc : isBlank c = true) (more : List Char) :
    Cut (cs ++ c :: more) ps (rest ++ c :: more) := by
  induction h with
  | nil => exact .nil
  | blank hd _ ih => exact .blank hd ih
  | lexeme hlexeme _ ih =>
    rw [List.append_assoc]
    exact .lexeme (hlexeme.congr fun hafter => hafter.append_blank hc more) ih

end LedgerSearch.Query
