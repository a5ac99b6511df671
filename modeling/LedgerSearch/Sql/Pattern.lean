/-!
# Patterns

A pattern stands for the texts that match it: a percent sign for any characters,
a low line for one character, and a backslash makes the character after it stand
for itself.

* `escape_append`: a joined text is escaped part by part.
* `unescape_escape`: what is escaped can be read back.
-/

namespace LedgerSearch.Sql.Pattern

/-- Whether a character has a meaning of its own in a pattern. -/
def isSpecial (c : Char) : Bool :=
  c == '\\' || c == '%' || c == '_'

/-- The pattern that only one text matches. -/
def escape (cs : List Char) : List Char :=
  cs.flatMap fun c => if isSpecial c then ['\\', c] else [c]

/-- Drops the backslashes that escape a character. -/
def unescape : List Char → List Char
  | '\\' :: c :: cs => c :: unescape cs
  | c :: cs => c :: unescape cs
  | [] => []

def escapeText (s : String) : String :=
  String.ofList (escape s.toList)

/-- The pattern of the texts that hold a term. -/
def holding (term : String) : String :=
  String.ofList ('%' :: escape term.toList ++ ['%'])

@[simp] theorem escape_nil : escape [] = [] := rfl

theorem escape_append (a b : List Char) : escape (a ++ b) = escape a ++ escape b := by
  simp [escape]

theorem escape_cons (c : Char) (cs : List Char) :
    escape (c :: cs) = (if isSpecial c then ['\\', c] else [c]) ++ escape cs := by
  simp [escape]

theorem unescape_cons {c : Char} (cs : List Char) (h : c ≠ '\\') :
    unescape (c :: cs) = c :: unescape cs := by
  rw [unescape]
  intro d ds hc _
  exact h hc

/-- What is escaped is read back, whatever follows it. -/
theorem unescape_escape_append (cs rest : List Char) :
    unescape (escape cs ++ rest) = cs ++ unescape rest := by
  induction cs with
  | nil => rfl
  | cons c cs ih =>
    rw [escape_cons, List.append_assoc]
    by_cases h : isSpecial c = true
    · rw [if_pos h]
      exact congrArg (c :: ·) ih
    · have hc : c ≠ '\\' := by
        rintro rfl
        exact h rfl
      rw [if_neg h, List.singleton_append, unescape_cons _ hc, ih, List.cons_append]

theorem unescape_escape (cs : List Char) : unescape (escape cs) = cs := by
  have h := unescape_escape_append cs []
  rwa [List.append_nil, unescape, List.append_nil] at h

end LedgerSearch.Sql.Pattern
