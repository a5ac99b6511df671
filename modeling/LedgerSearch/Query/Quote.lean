/-!
# Quoted strings

A quoted string stands between double quotes; a quote inside it is written with
a backslash before it. A backslash before any other character stands for itself,
so no content ends in a backslash.

* `read?_encode_append`: reading undoes writing, whatever follows.
* `eq_encode_of_read?`: what is read has this one written form.
-/

namespace LedgerSearch.Query.Quote

/-- The written form of a content, without the quotes around it. -/
def encode : List Char → List Char
  | [] => []
  | c :: cs => if c = '"' then '\\' :: '"' :: encode cs else c :: encode cs

/-- Reads what follows an opening quote: the content, and the text after the closing quote. There
is none if the quote is never closed. -/
def read? : List Char → Option (List Char × List Char)
  | [] => none
  | '\\' :: '"' :: cs => (read? cs).map fun (content, rest) => ('"' :: content, rest)
  | '"' :: cs => some ([], cs)
  | c :: cs => (read? cs).map fun (content, rest) => (c :: content, rest)

theorem read?_escape (cs : List Char) :
    read? ('\\' :: '"' :: cs) = (read? cs).map fun (content, rest) => ('"' :: content, rest) := by
  rw [read?]

theorem read?_quote (cs : List Char) : read? ('"' :: cs) = some ([], cs) := by
  rw [read?]

theorem read?_cons {c : Char} {cs : List Char} (hq : c ≠ '"')
    (hb : c = '\\' → cs.head? ≠ some '"') :
    read? (c :: cs) = (read? cs).map fun (content, rest) => (c :: content, rest) := by
  rw [read?]
  · intro t hc ht
    exact hb hc (by simp [ht])
  · exact hq

/-- What is read ends before the rest of the text, so the rest is shorter. -/
theorem length_lt_of_read? {cs content rest : List Char} (h : read? cs = some (content, rest)) :
    rest.length < cs.length := by
  fun_induction read? cs generalizing content with
  | case1 => cases h
  | case2 cs ih =>
    obtain ⟨⟨c, r⟩, hr, he⟩ := Option.map_eq_some_iff.mp h
    cases he
    have := ih hr
    simp only [List.length_cons]
    omega
  | case3 cs =>
    cases h
    simp
  | case4 c cs _ _ ih =>
    obtain ⟨⟨c', r⟩, hr, he⟩ := Option.map_eq_some_iff.mp h
    cases he
    have := ih hr
    simp only [List.length_cons]
    omega

/-- What is read stands in the text in its written form, followed by the closing quote. -/
theorem eq_encode_of_read? {cs content rest : List Char} (h : read? cs = some (content, rest)) :
    cs = encode content ++ '"' :: rest := by
  fun_induction read? cs generalizing content with
  | case1 => cases h
  | case2 cs ih =>
    obtain ⟨⟨c, r⟩, hr, he⟩ := Option.map_eq_some_iff.mp h
    cases he
    simp [encode, ← ih hr]
  | case3 cs =>
    cases h
    rfl
  | case4 c cs _ hq ih =>
    obtain ⟨⟨c', r⟩, hr, he⟩ := Option.map_eq_some_iff.mp h
    cases he
    rw [encode, if_neg hq, ih hr]
    rfl

/-- A written content is read back, whatever follows it, if it does not end in a backslash. -/
theorem read?_encode_append {content : List Char} (rest : List Char)
    (h : content.getLast? ≠ some '\\') :
    read? (encode content ++ '"' :: rest) = some (content, rest) := by
  induction content with
  | nil => rfl
  | cons c cs ih =>
    have hcs : cs.getLast? ≠ some '\\' := by
      cases cs with
      | nil => simp
      | cons d ds => simpa [List.getLast?_cons_cons] using h
    by_cases hc : c = '"'
    · subst hc
      rw [encode, if_pos rfl, List.cons_append, List.cons_append, read?_escape, ih hcs]
      rfl
    · rw [encode, if_neg hc, List.cons_append, read?_cons hc, ih hcs]
      · rfl
      · intro hb
        cases cs with
        | nil => exact absurd (by simp [hb]) h
        | cons d ds => by_cases hd : d = '"' <;> simp [encode, hd]

end LedgerSearch.Query.Quote
