import Mathlib
import LedgerSearch.Proofs.Query.Parsing

/-!
# Writing queries

A node is written in one way: a word as it stands, a phrase between quotes, and
a field as its operator, a colon and its value, which is put between quotes only
when it has to be. A query is written as its nodes with single spaces between
them.

Reading produces only some nodes. A word does not look like a field with a value,
the operator of a field is in lower case, and what was read between quotes does
not end in a backslash. `Node.WellFormed` says exactly which nodes those are.

* `quoted_encode`, `Quoted.getLast?_ne`: a content can be put between quotes if and
  only if it does not end in a backslash.
* `Node.WellFormed.lexeme`, `Lexeme.wellFormed`: the lexemes that a node is written as,
  and the nodes of lexemes.
-/

namespace LedgerSearch.Query

open Text

/-! ## Contents of quoted strings -/

/-- A list keeps a property of its last item when an item is put in front, which the item has to
have only if it stands alone. -/
theorem getLast?_cons_ne {α : Type} {a x : α} {l : List α} (ha : l = [] → a ≠ x)
    (hl : l.getLast? ≠ some x) : (a :: l).getLast? ≠ some x := by
  cases l with
  | nil => simpa using ha rfl
  | cons b l => rwa [List.getLast?_cons_cons]

theorem Quoted.getLast?_ne {body content : List Char} (h : Quoted body content) :
    content.getLast? ≠ some '\\' := by
  induction h with
  | close => simp
  | escape _ ih => exact getLast?_cons_ne (fun _ => by decide) ih
  | plain _ hescape hbody ih =>
    refine getLast?_cons_ne ?_ ih
    -- With nothing more in the content, what follows is the closing quote.
    rintro rfl rfl
    cases hbody
    exact hescape ⟨rfl, rfl⟩

theorem quoted_encode {content : List Char} (h : content.getLast? ≠ some '\\') :
    Quoted (Quote.encode content ++ ['"']) content := by
  obtain ⟨body, hbody, hquoted⟩ := quoted_of_read? (Quote.read?_encode_append [] h)
  rw [List.append_nil] at hbody
  rwa [hbody]

/-! ## Names in lower case -/

/-- Whether a name in lower case may begin with the character. -/
def isLowerStart (c : Char) : Bool :=
  c.isLower || c == '_'

/-- Whether the character may stand in a name in lower case after its beginning. -/
def isLowerPart (c : Char) : Bool :=
  c.isLower || c.isDigit || c == '_'

/-- A small ASCII letter or low line, followed by small letters, digits and low lines. -/
def IsLowerName (cs : List Char) : Prop :=
  ∃ c tail, cs = c :: tail ∧ isLowerStart c = true ∧ ∀ d ∈ tail, isLowerPart d = true

theorem not_isUpper_of_isDigit {c : Char} (h : c.isDigit = true) : ¬ c.isUpper = true := by
  simp only [Char.isDigit, Bool.and_eq_true, decide_eq_true_eq, UInt32.le_iff_toNat_le] at h
  simp only [Char.isUpper, decide_eq_true_eq, UInt32.le_iff_toNat_le]
  simp only [UInt32.reduceToNat, Char.reduceVal] at h ⊢
  omega

theorem isLowerPart_toLower {c : Char} (h : isNamePart c = true) :
    isLowerPart c.toLower = true := by
  simp only [isNamePart, Char.isAlphanum, Bool.or_eq_true] at h
  simp only [isLowerPart, Char.isLower_toLower_eq_isAlpha, Bool.or_eq_true]
  rcases h with (h | h) | h
  · exact .inl (.inl h)
  · rw [Char.toLower_eq_of_not_isUpper (not_isUpper_of_isDigit h)]
    exact .inl (.inr h)
  · obtain rfl := beq_iff_eq.mp h
    exact .inr rfl

theorem isLowerStart_toLower {c : Char} (h : isNameStart c = true) :
    isLowerStart c.toLower = true := by
  simp only [isNameStart, Bool.or_eq_true] at h
  simp only [isLowerStart, Char.isLower_toLower_eq_isAlpha, Bool.or_eq_true]
  rcases h with h | h
  · exact .inl h
  · obtain rfl := beq_iff_eq.mp h
    exact .inr rfl

theorem IsName.map_toLower {name : List Char} (h : IsName name) :
    IsLowerName (name.map Char.toLower) := by
  obtain ⟨c, tail, rfl, hc, htail⟩ := h
  refine ⟨c.toLower, tail.map Char.toLower, rfl, isLowerStart_toLower hc, ?_⟩
  intro d hd
  obtain ⟨e, he, rfl⟩ := List.mem_map.mp hd
  exact isLowerPart_toLower (htail e he)

theorem isNamePart_of_isLowerPart {c : Char} (h : isLowerPart c = true) :
    isNamePart c = true ∧ c.toLower = c := by
  simp only [isLowerPart, Bool.or_eq_true] at h
  simp only [isNamePart, Char.isAlphanum, Char.isAlpha, Bool.or_eq_true]
  rcases h with (h | h) | h
  · exact ⟨.inl (.inl (.inr h)), Char.toLower_eq_of_not_isUpper (Char.not_isUpper_of_isLower h)⟩
  · exact ⟨.inl (.inr h), Char.toLower_eq_of_not_isUpper (not_isUpper_of_isDigit h)⟩
  · obtain rfl := beq_iff_eq.mp h
    exact ⟨.inr h, by decide⟩

theorem isNameStart_of_isLowerStart {c : Char} (h : isLowerStart c = true) :
    isNameStart c = true := by
  simp only [isLowerStart, Bool.or_eq_true] at h
  simp only [isNameStart, Char.isAlpha, Bool.or_eq_true]
  rcases h with h | h
  · exact .inl (.inr h)
  · exact .inr h

theorem isLowerPart_of_isLowerStart {c : Char} (h : isLowerStart c = true) :
    isLowerPart c = true := by
  simp only [isLowerStart, isLowerPart, Bool.or_eq_true] at h ⊢
  rcases h with h | h
  · exact .inl (.inl h)
  · exact .inr h

/-- A name in lower case is a name, and is kept as it stands. -/
theorem IsLowerName.isName {name : List Char} (h : IsLowerName name) :
    IsName name ∧ name.map Char.toLower = name := by
  obtain ⟨c, tail, rfl, hc, htail⟩ := h
  refine ⟨⟨c, tail, rfl, isNameStart_of_isLowerStart hc, ?_⟩, ?_⟩
  · exact fun d hd => (isNamePart_of_isLowerPart (htail d hd)).1
  · have hsame : ∀ d ∈ c :: tail, d.toLower = id d := by
      intro d hd
      rcases List.mem_cons.mp hd with rfl | hd
      · exact (isNamePart_of_isLowerPart (isLowerPart_of_isLowerStart hc)).2
      · exact (isNamePart_of_isLowerPart (htail d hd)).2
    rw [List.map_congr_left hsame, List.map_id]

/-! ## Nodes that can be read -/

/-- The text may stand after a colon without quotes. -/
def IsBare (cs : List Char) : Prop :=
  cs.head? ≠ some '"' ∧ ∀ c ∈ cs, isBlank c = false

-- The characters of the text are tried, not all characters.
instance (cs : List Char) : Decidable (IsBare cs) :=
  letI := List.decidableBAll (isBlank · = false) cs
  inferInstanceAs (Decidable (_ ∧ _))

/-- The texts of words: a run of characters that begins neither with a quote nor with a name and a
colon, and what is left of a field that has no value. -/
inductive IsWord : List Char → Prop
  | run {cs : List Char} (hne : cs ≠ []) (hbare : IsBare cs)
      (hname : ∀ name value, IsName name → cs ≠ name ++ ':' :: value) : IsWord cs
  | nameColon {name : List Char} (hname : IsName name) : IsWord (name ++ [':'])
  | nameColonQuotes {name : List Char} (hname : IsName name) : IsWord (name ++ [':', '"', '"'])

/-- The node is one that reading may produce. -/
def Node.WellFormed : Node → Prop
  | .word text => IsWord text.toList
  | .phrase text => (∃ c ∈ text.toList, isBlank c = false) ∧ text.toList.getLast? ≠ some '\\'
  | .field operator value =>
    IsLowerName operator.toList ∧ value.toList ≠ [] ∧
      (value.toList.getLast? ≠ some '\\' ∨ IsBare value.toList)
  | .foreign _ => False

/-! ## Written queries -/

/-- A content between quotes. -/
def quote (content : List Char) : List Char :=
  '"' :: (Quote.encode content ++ ['"'])

/-- The value of a field, between quotes if it cannot stand without. -/
def renderValue (value : List Char) : List Char :=
  if IsBare value then value else quote value

/-- A node as it is written. One that reading cannot produce has no written form. -/
def Node.render : Node → List Char
  | .word text => text.toList
  | .phrase text => quote text.toList
  | .field operator value => operator.toList ++ ':' :: renderValue value.toList
  | .foreign _ => []

/-- The nodes as they are written, with single spaces between them. -/
def render (ns : List Node) : String :=
  String.ofList ([' '].intercalate (ns.map Node.render))

/-! ## What is written is read back -/

theorem IsWord.lexeme {cs after : List Char} (h : IsWord cs) (hafter : EndsRun after) :
    Lexeme after cs (some (.word (String.ofList cs))) := by
  cases h with
  | run hne hbare hname => exact .word hne hbare.1 hname hbare.2 hafter
  | nameColon hname => exact .emptyField hname hafter
  | nameColonQuotes hname => exact .emptyQuotedField hname .close

/-- A node that reading may produce is written as a lexeme that gives this node, before a blank and
at the end of the text. -/
theorem Node.WellFormed.lexeme {n : Node} {after : List Char} (h : n.WellFormed)
    (hafter : EndsRun after) : Lexeme after n.render (some n) := by
  cases n with
  | word text =>
    have hlexeme := IsWord.lexeme h hafter
    rwa [String.ofList_toList] at hlexeme
  | phrase text =>
    have hlexeme : Lexeme after (quote text.toList) _ := .phrase (quoted_encode h.2) h.1
    rwa [String.ofList_toList] at hlexeme
  | field operator value =>
    obtain ⟨hoperator, hne, hvalue⟩ := h
    obtain ⟨hname, hlower⟩ := hoperator.isName
    have hlexeme : Lexeme after (operator.toList ++ ':' :: renderValue value.toList)
        (some (.field (String.ofList (operator.toList.map Char.toLower))
          (String.ofList value.toList))) := by
      rw [renderValue]
      split
      · rename_i hbare
        exact .field hname hne hbare.1 hbare.2 hafter
      · rename_i hbare
        exact .quotedField hname (quoted_encode (hvalue.resolve_right hbare)) hne
    rwa [hlower, String.ofList_toList, String.ofList_toList] at hlexeme
  | foreign kind => exact h.elim

theorem exists_cut_render {ns : List Node} (h : ∀ n ∈ ns, n.WellFormed) :
    ∃ ps, Cut ([' '].intercalate (ns.map Node.render)) ps [] ∧ ps.filterMap Piece.node? = ns := by
  induction ns with
  | nil => exact ⟨[], .nil, rfl⟩
  | cons n ns ih =>
    obtain ⟨hn, hns⟩ := List.forall_mem_cons.mp h
    cases ns with
    | nil =>
      refine ⟨[.lexeme n.render (some n)], ?_, rfl⟩
      have hcut := Cut.lexeme (hn.lexeme endsRun_nil) .nil
      rw [List.map_cons, List.map_nil, List.intercalate_singleton]
      rwa [List.append_nil] at hcut
    | cons m ns =>
      obtain ⟨ps, hcut, hnodes⟩ := ih hns
      have hspace : isBlank ' ' = true := by decide
      refine ⟨.lexeme n.render (some n) :: .blank ' ' :: ps, ?_, ?_⟩
      · rw [List.map_cons, List.map_cons, List.intercalate_cons_cons, List.append_assoc]
        exact .lexeme (hn.lexeme (endsRun_blank hspace _)) (.blank hspace hcut)
      · rw [← hnodes]
        rfl

/-! ## What is read can be written -/

theorem Lexeme.wellFormed {after source : List Char} {node : Option Node} {n : Node}
    (h : Lexeme after source node) (hn : n ∈ node) : n.WellFormed := by
  cases h with
  | phrase hbody hcontent =>
    cases hn
    simp only [Node.WellFormed, String.toList_ofList]
    exact ⟨hcontent, hbody.getLast?_ne⟩
  | blankPhrase => cases hn
  | quotedField hname hbody hcontent =>
    cases hn
    simp only [Node.WellFormed, String.toList_ofList]
    exact ⟨hname.map_toLower, hcontent, .inl hbody.getLast?_ne⟩
  | emptyQuotedField hname hbody =>
    cases hn
    cases hbody
    simp only [Node.WellFormed, String.toList_ofList]
    exact .nameColonQuotes hname
  | field hname hne hquote hvalue =>
    cases hn
    simp only [Node.WellFormed, String.toList_ofList]
    exact ⟨hname.map_toLower, hne, .inr ⟨hquote, hvalue⟩⟩
  | emptyField hname =>
    cases hn
    simp only [Node.WellFormed, String.toList_ofList]
    exact .nameColon hname
  | word hne hquote hname hcs =>
    cases hn
    simp only [Node.WellFormed, String.toList_ofList]
    exact .run hne ⟨hquote, hcs⟩ hname

theorem Cut.wellFormed {cs rest : List Char} {ps : List Piece} (h : Cut cs ps rest) :
    ∀ n ∈ ps.filterMap Piece.node?, n.WellFormed := by
  induction h with
  | nil => exact List.forall_mem_nil _
  | blank _ _ ih => exact ih
  | @lexeme source cs rest node ps hlexeme _ ih =>
    intro n hn
    obtain ⟨p, hp, hnode⟩ := List.mem_filterMap.mp hn
    rcases List.mem_cons.mp hp with rfl | hp
    · exact hlexeme.wellFormed hnode
    · exact ih n (List.mem_filterMap.mpr ⟨p, hp, hnode⟩)

theorem parse_render {ns : List Node} (h : ∀ n ∈ ns, n.WellFormed) :
    parse (render ns) = .ok ns := by
  obtain ⟨ps, hcut, rfl⟩ := exists_cut_render h
  refine parse_of_nodes ?_
  rw [render, String.toList_ofList]
  exact nodes_of_cut_nil hcut

theorem wellFormed_of_parse {text : String} {ns : List Node} (h : parse text = .ok ns) :
    ∀ n ∈ ns, n.WellFormed := by
  obtain ⟨ps, hcut, rfl⟩ := nodes_eq_ok_iff.mp (parse_eq_ok_iff.mp h)
  exact hcut.wellFormed

/-- Writing is undone by reading exactly for the nodes that reading may produce, and reading
produces no others, so what was read, written and read again is the same. -/
theorem parse_render_iff_wellFormed (ns : List Node) :
    (parse (render ns) = .ok ns ↔ ∀ n ∈ ns, n.WellFormed) ∧
    ∀ text, parse text = .ok ns → (∀ n ∈ ns, n.WellFormed) ∧ parse (render ns) = .ok ns := by
  refine ⟨⟨wellFormed_of_parse, parse_render⟩, ?_⟩
  intro text htext
  have hns := wellFormed_of_parse htext
  exact ⟨hns, parse_render hns⟩

def eatingOutNodes : List Node :=
  [.field "category" "eating out", .phrase "say \"hi\"", .field "path" "C:\\x", .field "b" "\\"]

/-- What is written has spaces where the text had none, the operator in lower case, and quotes only
around the value that has a blank in it. -/
theorem parse_render_eatingOut :
    parse "CATEGORY:\"eating out\"\"say \\\"hi\\\"\"path:\"C:\\x\"b:\\" = .ok eatingOutNodes ∧
      render eatingOutNodes =
        "category:\"eating out\" \"say \\\"hi\\\"\" path:C:\\x b:\\" ∧
      parse (render eatingOutNodes) = .ok eatingOutNodes := by
  have hcategory : lexeme "CATEGORY:\"eating out\"\"say \\\"hi\\\"\"path:\"C:\\x\"b:\\".toList =
      .ok (some (.field "category" "eating out"),
        "\"say \\\"hi\\\"\"path:\"C:\\x\"b:\\".toList) := rfl
  have hphrase : lexeme "\"say \\\"hi\\\"\"path:\"C:\\x\"b:\\".toList =
      .ok (some (.phrase "say \"hi\""), "path:\"C:\\x\"b:\\".toList) := rfl
  have hpath : lexeme "path:\"C:\\x\"b:\\".toList =
      .ok (some (.field "path" "C:\\x"), "b:\\".toList) := rfl
  have hb : lexeme "b:\\".toList = .ok (some (.field "b" "\\"), []) := rfl
  have htext : parse "CATEGORY:\"eating out\"\"say \\\"hi\\\"\"path:\"C:\\x\"b:\\" =
      .ok eatingOutNodes := by
    refine parse_of_nodes (nodes_of_lexeme rfl ?_ hcategory (nodes_of_lexeme rfl ?_ hphrase
      (nodes_of_lexeme rfl ?_ hpath (nodes_of_lexeme rfl ?_ hb nodes_nil)))) <;> decide
  exact ⟨htext, rfl, ((parse_render_iff_wellFormed eatingOutNodes).2 _ htext).2⟩

end LedgerSearch.Query
