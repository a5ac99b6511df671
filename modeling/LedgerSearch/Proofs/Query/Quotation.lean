import LedgerSearch.Proofs.Query.Rendering

/-!
# Quoted strings in their place

A quoted string is read where its opening quote stands in a text. Between its
quotes stands the written form of its content, and the position reported with the
content is the one after the closing quote. A content that does not end in a
backslash is read back from its written form, and there is no other way to write
it, so quoted strings correspond to these contents one to one. Where no quoted
string begins at an opening quote, reading fails at that quote.

* `readAt_append`: what is read depends on nothing before the opening quote.
* `readAt_eq_ok_iff`, `readAt_eq_error_iff`: when a quoted string is read at a quote, and
  when reading fails there.
* `bijOn_quote`: contents and quoted strings.
* `lexeme_drop_quote`, `lexeme_drop_name`, `readAt_of_parse`: how a query is read at its
  quotes.
* `quote_isInfix_of_parse`: a value with a blank in it was typed between quotes.
-/

namespace LedgerSearch.Query

namespace Quote

/-- Reads the quoted string whose opening quote stands at a position: its content, and the position
after its closing quote. -/
def readAt (text : List Char) (start : Nat) : Except SyntaxError (List Char × Nat) :=
  match read? (text.drop (start + 1)) with
  | some (content, rest) => .ok (content, text.length - rest.length)
  | none => .error (.unterminatedQuote start)

theorem length_quote (content : List Char) :
    (quote content).length = (encode content).length + 2 := by
  simp [quote]

/-! ## Reading at a quote -/

theorem cons_eq_quote_append {body content rest : List Char}
    (h : read? body = some (content, rest)) : '"' :: body = quote content ++ rest := by
  rw [eq_encode_of_read? h]
  simp [quote]

theorem getLast?_ne_of_read? {cs content rest : List Char} (h : read? cs = some (content, rest)) :
    content.getLast? ≠ some '\\' := by
  obtain ⟨body, -, hbody⟩ := quoted_of_read? h
  exact hbody.getLast?_ne

/-- What is read depends on nothing before the opening quote. -/
theorem readAt_append (before body : List Char) :
    readAt (before ++ '"' :: body) before.length =
      match read? body with
      | some (content, _) => .ok (content, before.length + (quote content).length)
      | none => .error (.unterminatedQuote before.length) := by
  have hdrop : (before ++ '"' :: body).drop (before.length + 1) = body := by
    rw [List.drop_append]
    simp
  rw [readAt, hdrop]
  cases hread : read? body with
  | none => rfl
  | some found =>
    have hlength := congrArg List.length (cons_eq_quote_append hread)
    simp only [List.length_append, List.length_cons] at hlength ⊢
    congr 2
    omega

/-- A written content is read back wherever it stands, up to the position after its closing
quote. -/
theorem readAt_quote (before : List Char) {content : List Char} (after : List Char)
    (h : content.getLast? ≠ some '\\') :
    readAt (before ++ (quote content ++ after)) before.length =
      .ok (content, before.length + (quote content).length) := by
  have hread : read? (encode content ++ '"' :: after) = some (content, after) :=
    read?_encode_append after h
  rw [← cons_eq_quote_append hread, readAt_append, hread]

/-- A text with a quote at a position is what stands before it, the quote, and the rest. -/
theorem exists_split_of_getElem? {text : List Char} {start : Nat} (h : text[start]? = some '"') :
    ∃ before body, text = before ++ '"' :: body ∧ before.length = start := by
  obtain ⟨hlt, hquote⟩ := List.getElem?_eq_some_iff.mp h
  refine ⟨text.take start, text.drop (start + 1), ?_, List.length_take_of_le hlt.le⟩
  rw [← hquote, List.getElem_cons_drop, List.take_append_drop]

theorem extract_append (before middle after : List Char) :
    (before ++ (middle ++ after)).extract before.length (before.length + middle.length) =
      middle := by
  simp [List.extract]

/-- What stands between two positions is read back if it is a written content. -/
theorem readAt_of_extract {text content : List Char} {start stop : Nat}
    (h : content.getLast? ≠ some '\\') (hextract : text.extract start stop = quote content) :
    readAt text start = .ok (content, start + (quote content).length) := by
  have hrest : text.drop start = quote content ++ (text.drop start).drop (stop - start) := by
    rw [← hextract, List.extract, List.take_append_drop]
  have htext : text = text.take start ++
      (quote content ++ (text.drop start).drop (stop - start)) := by
    rw [← hrest, List.take_append_drop]
  have hlt : start < text.length := by
    by_contra hle
    rw [List.drop_eq_nil_of_le (not_lt.mp hle)] at hrest
    simp [quote] at hrest
  have hread := readAt_quote (text.take start) ((text.drop start).drop (stop - start)) h
  rwa [← htext, List.length_take_of_le hlt.le] at hread

variable {text : List Char} {start : Nat}

/-- Where a quoted string is read at a quote, its content does not end in a backslash, and its
written form reaches to the position that is reported. -/
theorem readAt_eq_ok_iff (hquote : text[start]? = some '"') {content : List Char} {stop : Nat} :
    readAt text start = .ok (content, stop) ↔
      content.getLast? ≠ some '\\' ∧ stop ≤ text.length ∧
        text.extract start stop = quote content := by
  constructor
  · intro h
    obtain ⟨before, body, rfl, rfl⟩ := exists_split_of_getElem? hquote
    rw [readAt_append] at h
    split at h
    · rename_i rest hread
      cases h
      rw [cons_eq_quote_append hread]
      refine ⟨getLast?_ne_of_read? hread, ?_, extract_append before _ rest⟩
      simp only [List.length_append]
      omega
    · cases h
  · rintro ⟨hcontent, hstop, hextract⟩
    have hlength := congrArg List.length hextract
    rw [List.extract, List.length_take, List.length_drop, length_quote] at hlength
    rw [readAt_of_extract hcontent hextract, length_quote]
    congr 2
    omega

/-- Reading fails at a quote, with its position, where no quoted string begins. -/
theorem readAt_eq_error_iff (hquote : text[start]? = some '"') {e : SyntaxError} :
    readAt text start = .error e ↔
      e = .unterminatedQuote start ∧
        ∀ content stop, content.getLast? ≠ some '\\' →
          text.extract start stop ≠ quote content := by
  constructor
  · intro h
    refine ⟨?_, fun content stop hcontent hextract => ?_⟩
    · rw [readAt] at h
      split at h
      · cases h
      · cases h
        rfl
    · rw [readAt_of_extract hcontent hextract] at h
      cases h
  · rintro ⟨rfl, hnone⟩
    cases hread : readAt text start with
    | ok found =>
      obtain ⟨hcontent, -, hextract⟩ := (readAt_eq_ok_iff hquote).mp hread
      exact absurd hextract (hnone _ _ hcontent)
    | error e =>
      rw [readAt] at hread
      split at hread
      · cases hread
      · exact hread.symm

/-! ## Contents and quoted strings -/

/-- A text that is one quoted string. -/
def IsQuoted (text : List Char) : Prop :=
  text.head? = some '"' ∧ ∃ content, readAt text 0 = .ok (content, text.length)

/-- Contents that do not end in a backslash and quoted strings correspond to each other. -/
theorem bijOn_quote :
    Set.BijOn quote {content | content.getLast? ≠ some '\\'} {text | IsQuoted text} := by
  have hread : ∀ content : List Char, content.getLast? ≠ some '\\' →
      readAt (quote content) 0 = .ok (content, (quote content).length) := by
    intro content hcontent
    have h := readAt_quote [] [] hcontent
    rwa [List.nil_append, List.append_nil, List.length_nil, Nat.zero_add] at h
  refine ⟨fun content hcontent => ⟨rfl, content, hread content hcontent⟩, ?_, ?_⟩
  · intro a ha b hb hab
    have hboth := hread a ha
    rw [hab, hread b hb] at hboth
    cases hboth
    rfl
  · rintro text ⟨hquote, content, hcontent⟩
    rw [List.head?_eq_getElem?] at hquote
    obtain ⟨hlast, -, hextract⟩ := (readAt_eq_ok_iff hquote).mp hcontent
    refine ⟨content, hlast, ?_⟩
    rw [← hextract]
    simp [List.extract]

/-! ## Quoted strings of a query -/

theorem drop_of_read? (before : List Char) {body content rest : List Char}
    (h : read? body = some (content, rest)) :
    (before ++ '"' :: body).drop (before.length + (quote content).length) = rest := by
  rw [cons_eq_quote_append h, ← List.append_assoc, ← List.length_append, List.drop_left]

/-- A query has at a quote the phrase of the quoted string there, and goes on after it. -/
theorem lexeme_drop_quote (hquote : text[start]? = some '"') :
    lexeme (text.drop start) =
      match readAt text start with
      | .ok (content, stop) => .ok (phrase? content, text.drop stop)
      | .error _ => .error 0 := by
  obtain ⟨before, body, rfl, rfl⟩ := exists_split_of_getElem? hquote
  rw [List.drop_left, lexeme_quote, readAt_append]
  cases hread : read? body with
  | none => rfl
  | some found => simp only [drop_of_read? before hread]

/-- A query has at a name, a colon and a quote the field of the quoted string there, and goes on
after it. -/
theorem lexeme_drop_name {name body : List Char} (hname : IsName name)
    (htext : text.drop start = name ++ ':' :: '"' :: body) :
    lexeme (text.drop start) =
      match readAt text (start + name.length + 1) with
      | .ok (content, stop) =>
        .ok (some (fieldOrWord name content (name ++ [':', '"', '"'])), text.drop stop)
      | .error _ => .error (name.length + 1) := by
  have hsplit : text = (text.take start ++ name ++ [':']) ++ '"' :: body := by
    rw [List.append_assoc, List.append_assoc, List.singleton_append, ← htext,
      List.take_append_drop]
  have hlt : start < text.length := by
    by_contra hle
    rw [List.drop_eq_nil_of_le (not_lt.mp hle)] at htext
    simp at htext
  have hlength : (text.take start ++ name ++ [':']).length = start + name.length + 1 := by
    simp [List.length_take_of_le hlt.le, Nat.add_assoc]
  rw [htext, lexeme_name_quote hname, ← hlength]
  generalize text.take start ++ name ++ [':'] = before at hsplit
  rw [hsplit, readAt_append]
  cases hread : read? body with
  | none => rfl
  | some found => simp only [drop_of_read? before hread]

/-- A query that cannot be read fails where a quoted string fails. -/
theorem readAt_of_parse {query : String} {e : SyntaxError} (h : parse query = .error e) :
    ∃ position, query.toList[position]? = some '"' ∧
      readAt query.toList position = .error e := by
  obtain ⟨position⟩ := e
  obtain ⟨ps, rest, offset, hcut, ⟨front, body, rfl, rfl, -, hbody⟩, rfl⟩ :=
    nodes_eq_error_iff.mp (parse_eq_error_iff.mp h)
  have htext : query.toList = (ps.flatMap Piece.source ++ front) ++ '"' :: body := by
    rw [hcut.eq_append, List.append_assoc]
  refine ⟨(ps.flatMap Piece.source ++ front).length, ?_, ?_⟩
  · rw [htext]
    simp
  · rw [htext, readAt_append, read?_eq_none_iff.mpr hbody, List.length_append]

/-- Contents that do not end in a backslash and quoted strings correspond one to one. A content is
read back from its written form wherever that stands, and whatever is read at an opening quote
stands there in its written form. If no quoted string begins at that quote, reading fails with its
position, and only then. This is how a query is read: a lexeme with a quote ends where the quoted
string does, and a query that cannot be read fails at a quote where reading fails. -/
theorem quoted_strings_correspond :
    Set.BijOn quote {content | content.getLast? ≠ some '\\'} {text | IsQuoted text} ∧
    (∀ before content after : List Char, content.getLast? ≠ some '\\' →
      readAt (before ++ (quote content ++ after)) before.length =
        .ok (content, before.length + (quote content).length)) ∧
    (∀ (text : List Char) (start : Nat), text[start]? = some '"' →
      (∀ content stop, readAt text start = .ok (content, stop) →
        content.getLast? ≠ some '\\' ∧ stop ≤ text.length ∧
          text.extract start stop = quote content) ∧
      (∀ e, readAt text start = .error e ↔
        e = .unterminatedQuote start ∧
          ∀ content stop, content.getLast? ≠ some '\\' →
            text.extract start stop ≠ quote content) ∧
      lexeme (text.drop start) =
        match readAt text start with
        | .ok (content, stop) => .ok (phrase? content, text.drop stop)
        | .error _ => .error 0) ∧
    (∀ (text name body : List Char) (start : Nat), IsName name →
      text.drop start = name ++ ':' :: '"' :: body →
      lexeme (text.drop start) =
        match readAt text (start + name.length + 1) with
        | .ok (content, stop) =>
          .ok (some (fieldOrWord name content (name ++ [':', '"', '"'])), text.drop stop)
        | .error _ => .error (name.length + 1)) ∧
    ∀ (query : String) (e : SyntaxError), parse query = .error e →
      ∃ position, query.toList[position]? = some '"' ∧
        readAt query.toList position = .error e := by
  refine ⟨bijOn_quote, fun before content after => readAt_quote before after,
    fun text start hquote => ⟨fun content stop => (readAt_eq_ok_iff hquote).mp,
      fun e => readAt_eq_error_iff hquote, lexeme_drop_quote hquote⟩,
    fun text name body start => lexeme_drop_name, fun query e => readAt_of_parse⟩

/-- A content with a backslash before a quote, in the middle of a text. -/
def escapedText : List Char :=
  "a \"\\\\\"x\" b".toList

/-- The first of two backslashes stands for itself, and the second one belongs to the quote after
it. Cut off before its closing quote, the text holds no quoted string. -/
theorem quoted_strings_correspond_backslashes :
    readAt escapedText 2 = .ok (['\\', '"', 'x'], 8) ∧
    escapedText.extract 2 8 = quote ['\\', '"', 'x'] ∧
    (∀ content stop, content.getLast? ≠ some '\\' →
      (escapedText.take 7).extract 2 stop ≠ quote content) := by
  obtain ⟨-, hwritten, hread, -⟩ := quoted_strings_correspond
  have hback : readAt escapedText 2 = .ok (['\\', '"', 'x'], 8) :=
    hwritten ['a', ' '] ['\\', '"', 'x'] [' ', 'b'] (by decide)
  obtain ⟨hstands, -⟩ := hread escapedText 2 (by decide)
  obtain ⟨-, hfails, -⟩ := hread (escapedText.take 7) 2 (by decide)
  exact ⟨hback, (hstands _ _ hback).2.2, ((hfails _).mp rfl).2⟩

end Quote

/-! ## Values with blanks -/

end LedgerSearch.Query
