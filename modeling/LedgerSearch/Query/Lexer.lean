import LedgerSearch.Query.Node
import LedgerSearch.Query.Quote
import LedgerSearch.Text.Blank

/-!
# Reading a query

A query is a sequence of lexemes with blanks between them; a blank may be
missing after a closing quote. A lexeme is

* a quoted string: a phrase, or nothing if it is all blank;
* a name, a colon and a quoted string: a field, or the word that stands there if
  the string is empty;
* a name, a colon and the longest run of characters that are not blank: a field,
  or the word that stands there if the run is empty;
* otherwise the longest run of characters that are not blank: a word.

A name is an ASCII identifier and is kept in lower case. The only failure is a
quote that is never closed, reported with its position.

* `length_lt_of_lexeme`: a lexeme takes at least one character.
* `nodes_nil`, `nodes_blank`, `nodes_lexeme`: the reading as equations.
-/

namespace LedgerSearch.Query

open Text

/-- Why a text is no query. -/
inductive SyntaxError where
  /-- The quote at this position, counted from 0, is never closed. -/
  | unterminatedQuote (position : Nat)
  deriving DecidableEq

/-- The wording of a syntax error. -/
def SyntaxError.message : SyntaxError → String
  | .unterminatedQuote position => "unterminated quote at position " ++ toString position

/-! ## Names -/

/-- Whether a name may begin with the character. -/
def isNameStart (c : Char) : Bool :=
  c.isAlpha || c == '_'

/-- Whether the character may stand in a name after its beginning. -/
def isNamePart (c : Char) : Bool :=
  c.isAlphanum || c == '_'

/-- Splits a name and a colon off the text: the name, and what follows the colon. -/
def splitName? (cs : List Char) : Option (List Char × List Char) :=
  if cs.head?.any isNameStart then
    match cs.dropWhile isNamePart with
    | ':' :: rest => some (cs.takeWhile isNamePart, rest)
    | _ => none
  else
    none

/-! ## Lexemes -/

def run (cs : List Char) : List Char :=
  cs.takeWhile (!isBlank ·)

/-- What follows the longest run of characters that are not blank. -/
def afterRun (cs : List Char) : List Char :=
  cs.dropWhile (!isBlank ·)

/-- The phrase of a quoted string; one that is all blank is dropped. -/
def phrase? (content : List Char) : Option Node :=
  if content.all isBlank then none else some (.phrase (String.ofList content))

/-- The field of a name and a value; without a value it is the word that stands there. -/
def fieldOrWord (name value source : List Char) : Node :=
  if value.isEmpty then
    .word (String.ofList source)
  else
    .field (String.ofList (name.map Char.toLower)) (String.ofList value)

/-- Reads the lexeme at the beginning of a text that begins with no blank: its node, if it has one,
and the rest of the text. Fails at the offset of a quote that is never closed. -/
def lexeme (cs : List Char) : Except Nat (Option Node × List Char) :=
  match cs with
  | '"' :: body =>
    match Quote.read? body with
    | some (content, rest) => .ok (phrase? content, rest)
    | none => .error 0
  | _ =>
    match splitName? cs with
    | some (name, '"' :: body) =>
      match Quote.read? body with
      | some (content, rest) =>
        .ok (some (fieldOrWord name content (name ++ [':', '"', '"'])), rest)
      | none => .error (name.length + 1)
    | some (name, value) =>
      .ok (some (fieldOrWord name (run value) (name ++ [':'])), afterRun value)
    | none => .ok (some (.word (String.ofList (run cs))), afterRun cs)

/-! ## A lexeme takes characters -/

theorem length_dropWhile_le {α : Type} (p : α → Bool) (l : List α) :
    (l.dropWhile p).length ≤ l.length :=
  (List.dropWhile_suffix p).sublist.length_le

theorem eq_of_splitName? {cs name rest : List Char} (h : splitName? cs = some (name, rest)) :
    cs = name ++ ':' :: rest := by
  unfold splitName? at h
  split at h
  · split at h
    · rename_i r hr
      cases h
      rw [← hr, List.takeWhile_append_dropWhile]
    · cases h
  · cases h

theorem length_lt_of_lexeme {c : Char} {cs rest : List Char} {node : Option Node}
    (hc : isBlank c = false) (h : lexeme (c :: cs) = .ok (node, rest)) :
    rest.length < (c :: cs).length := by
  unfold lexeme at h
  split at h
  · rename_i body hbody
    split at h
    · rename_i content r hr
      cases h
      cases hbody
      have := Quote.length_lt_of_read? hr
      simp only [List.length_cons]
      omega
    · cases h
  · split at h
    · rename_i name body hname
      have heq := congrArg List.length (eq_of_splitName? hname)
      simp only [List.length_append, List.length_cons] at heq
      split at h
      · rename_i content r hr
        cases h
        have := Quote.length_lt_of_read? hr
        simp only [List.length_cons]
        omega
      · cases h
    · rename_i name value _ hname
      have heq := congrArg List.length (eq_of_splitName? hname)
      simp only [List.length_append, List.length_cons] at heq
      cases h
      have := length_dropWhile_le (!isBlank ·) value
      simp only [afterRun, List.length_cons]
      omega
    · cases h
      have := length_dropWhile_le (!isBlank ·) cs
      simp only [afterRun, List.dropWhile_cons, hc, Bool.not_false, if_true, List.length_cons]
      omega

/-! ## The whole text -/

/-- Reads all nodes of a text. Fails at the offset of the first quote that is never closed. -/
def nodes (cs : List Char) : Except Nat (List Node) :=
  match cs with
  | [] => .ok []
  | c :: cs =>
    if hc : isBlank c = true then
      (nodes cs).mapError (1 + ·)
    else
      match _h : lexeme (c :: cs) with
      | .error offset => .error offset
      | .ok (node, rest) =>
        match nodes rest with
        | .ok more => .ok (node.toList ++ more)
        | .error offset => .error ((c :: cs).length - rest.length + offset)
termination_by cs.length
decreasing_by
  · simp
  · exact length_lt_of_lexeme (Bool.not_eq_true _ ▸ hc) _h

@[simp] theorem nodes_nil : nodes [] = .ok [] := by
  rw [nodes]

/-- A blank at the beginning only moves the positions. -/
theorem nodes_blank {c : Char} {cs : List Char} (hc : isBlank c = true) :
    nodes (c :: cs) = (nodes cs).mapError (1 + ·) := by
  rw [nodes]
  simp [hc]

/-- A lexeme at the beginning gives its node, and the rest is read on its own. -/
theorem nodes_lexeme {c : Char} {cs rest : List Char} {node : Option Node}
    (hc : isBlank c = false) (h : lexeme (c :: cs) = .ok (node, rest)) :
    nodes (c :: cs) =
      match nodes rest with
      | .ok more => .ok (node.toList ++ more)
      | .error offset => .error ((c :: cs).length - rest.length + offset) := by
  rw [nodes]
  split
  · rename_i hb
    rw [hc] at hb
    cases hb
  · split
    · rename_i h'
      rw [h] at h'
      cases h'
    · rename_i h'
      rw [h] at h'
      cases h'
      rfl

/-- A lexeme that fails makes the whole text fail, at the same offset. -/
theorem nodes_lexeme_error {c : Char} {cs : List Char} {offset : Nat}
    (hc : isBlank c = false) (h : lexeme (c :: cs) = .error offset) :
    nodes (c :: cs) = .error offset := by
  rw [nodes]
  split
  · rename_i hb
    rw [hc] at hb
    cases hb
  · split
    · rename_i h'
      rw [h] at h'
      cases h'
      rfl
    · rename_i h'
      rw [h] at h'
      cases h'

def parse (text : String) : Except SyntaxError (List Node) :=
  (nodes text.toList).mapError .unterminatedQuote

end LedgerSearch.Query
