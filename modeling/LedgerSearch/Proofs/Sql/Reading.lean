import Mathlib.Data.List.SplitBy
import LedgerSearch.Proofs.Sql.Spacing

/-!
# Reading statements on transactions

The text of a statement is cut into symbols, the values take the places of the
placeholders in order, and what stands between `FROM` and `ORDER` is read as a
table, a name for its rows and clauses joined by `AND`. Nothing here knows how
the text was made.

* `Condition.reads`: the text of a condition is read as its clause.
* `exists_conjunction`: so are texts joined by `AND`.
* `selection?_countStatement`, `selection?_selectStatement`: reading a statement gives
  one clause for each condition, in their order and with their values.
-/

namespace LedgerSearch.Sql

/-! ## Symbols -/

def isSymbolChar (c : Char) : Bool :=
  c.isAlphanum || c == '_' || c == '%'

def isRelationChar (c : Char) : Bool :=
  c == '<' || c == '=' || c == '>'

/-- Whether two characters next to each other belong to one symbol. -/
def joins (a b : Char) : Bool :=
  (isSymbolChar a && isSymbolChar b) || (isRelationChar a && isRelationChar b)

/-- The symbols of a text; spaces only separate them. -/
def symbols (text : List Char) : List String :=
  ((text.splitBy joins).filter (· != [' '])).map String.ofList

theorem joins_space_left (c : Char) : joins ' ' c = false := by
  have h : isSymbolChar ' ' = false ∧ isRelationChar ' ' = false := by decide
  rw [joins, h.1, h.2]
  rfl

theorem joins_space_right (c : Char) : joins c ' ' = false := by
  have h : isSymbolChar ' ' = false ∧ isRelationChar ' ' = false := by decide
  rw [joins, h.1, h.2, Bool.and_false, Bool.and_false]
  rfl

theorem symbols_space_cons (text : List Char) : symbols (' ' :: text) = symbols text := by
  have h : (' ' :: text).splitBy joins = [[' ']] ++ text.splitBy joins := by
    change ([' '] ++ text).splitBy joins = _
    rw [List.splitBy_append]
    · rfl
    · intro x hx y _
      cases hx
      exact joins_space_left y
  rw [symbols, h, List.filter_append]
  rfl

theorem symbols_append_space (a b : List Char) :
    symbols (a ++ ' ' :: b) = symbols a ++ symbols b := by
  have h : (a ++ ' ' :: b).splitBy joins = a.splitBy joins ++ (' ' :: b).splitBy joins :=
    List.splitBy_append_cons b fun x _ => joins_space_right x
  rw [← symbols_space_cons b, symbols, h, List.filter_append, List.map_append]
  rfl

/-! ## Placeholders -/

/-- A part of a statement: a symbol, or the value of a placeholder. -/
inductive Token where
  | symbol (s : String)
  | value (v : Param)
  deriving DecidableEq

/-- Puts the values in the places of the placeholders, in order. There have to be as many of the
ones as of the others. -/
def place? : List String → List Param → Option (List Token)
  | [], [] => some []
  | [], _ :: _ => none
  | s :: ss, vs =>
    if s = "%s" then vs.head?.bind fun v => (place? ss vs.tail).map (.value v :: ·)
    else (place? ss vs).map (.symbol s :: ·)

theorem place?_append {ss : List String} {vs : List Param} {ts : List Token}
    (h : place? ss vs = some ts) (ss' : List String) (vs' : List Param) :
    place? (ss ++ ss') (vs ++ vs') = (place? ss' vs').map (ts ++ ·) := by
  induction ss generalizing vs ts with
  | nil =>
    cases vs with
    | nil =>
      cases h
      simp
    | cons v vs => cases h
  | cons s ss ih =>
    rw [place?] at h
    rw [List.cons_append, place?]
    by_cases hs : s = "%s"
    · rw [if_pos hs] at h ⊢
      cases vs with
      | nil => cases h
      | cons v vs =>
        obtain ⟨us, hus, rfl⟩ := Option.map_eq_some_iff.mp h
        rw [List.tail_cons] at hus
        change (place? (ss ++ ss') (vs ++ vs')).map _ = _
        rw [ih hus, Option.map_map]
        rfl
    · rw [if_neg hs] at h ⊢
      obtain ⟨us, hus, rfl⟩ := Option.map_eq_some_iff.mp h
      rw [ih hus, Option.map_map]
      rfl

/-! ## Clauses -/

/-- What a test compares: a column of a named row, its size, or a value. -/
inductive Operand where
  | column (row column : String)
  | size (row column : String)
  | value (v : Param)
  deriving DecidableEq

inductive Relation where
  | equal
  | less
  | atMost
  | atLeast
  deriving DecidableEq

inductive Test where
  | compare (relation : Relation) (left right : Operand)
  /-- The operand is in a list. -/
  | oneOf (left : Operand) (values : Param)
  /-- The operand matches a pattern without regard to case. -/
  | like (left : Operand) (pattern : Param)
  deriving DecidableEq

inductive Clause where
  | test (t : Test)
  /-- A table has a row that passes the tests under a name. -/
  | holdsIn (table row : String) (tests : List Test)
  deriving DecidableEq

/-- What a statement selects from, and the clauses that its rows satisfy. -/
structure Selection where
  table : String
  row : String
  clauses : List Clause
  deriving DecidableEq

def relation? : String → Option Relation
  | "=" => some .equal
  | "<" => some .less
  | "<=" => some .atMost
  | ">=" => some .atLeast
  | _ => none

def operand? : List Token → Option (Operand × List Token)
  | .symbol "ABS" :: .symbol "(" :: .symbol row :: .symbol "." :: .symbol column ::
      .symbol ")" :: rest => some (.size row column, rest)
  | .symbol row :: .symbol "." :: .symbol column :: rest => some (.column row column, rest)
  | .value v :: rest => some (.value v, rest)
  | _ => none

def test? (ts : List Token) : Option Test :=
  match operand? ts with
  | some (left, [.symbol "=", .symbol "ANY", .symbol "(", .value v, .symbol ")"]) =>
    some (.oneOf left v)
  | some (left, [.symbol "ILIKE", .value v]) => some (.like left v)
  | some (left, .symbol s :: rest) =>
    match relation? s, operand? rest with
    | some relation, some (right, []) => some (.compare relation left right)
    | _, _ => none
  | _ => none

/-- How many parentheses are open after a token. -/
def Token.depth (depth : Nat) : Token → Nat
  | .symbol "(" => depth + 1
  | .symbol ")" => depth - 1
  | _ => depth

/-- What stands between the `AND`s outside of parentheses, up to an `ORDER` outside of them. -/
def conjuncts (depth : Nat) : List Token → List (List Token)
  | [] => [[]]
  | t :: ts =>
    if depth = 0 ∧ t = .symbol "AND" then [] :: conjuncts 0 ts
    else if depth = 0 ∧ t = .symbol "ORDER" then [[]]
    else (conjuncts (t.depth depth) ts).modifyHead (t :: ·)

def clause? : List Token → Option Clause
  | .symbol "EXISTS" :: .symbol "(" :: .symbol "SELECT" :: .symbol "1" :: .symbol "FROM" ::
      .symbol table :: .symbol row :: .symbol "WHERE" :: ts =>
    if ts.getLast? = some (.symbol ")") then
      ((conjuncts 0 ts.dropLast).mapM test?).map (.holdsIn table row)
    else none
  | ts => (test? ts).map .test

/-- Reads what follows the table. -/
def clauses? : List Token → Option (List Clause)
  | [] => some []
  | .symbol "ORDER" :: _ => some []
  | .symbol "WHERE" :: ts => (conjuncts 0 ts).mapM clause?
  | _ => none

/-- Reads what follows the first `FROM`. -/
def selection? (ts : List Token) : Option Selection :=
  match ts.dropWhile (· != .symbol "FROM") with
  | _ :: .symbol table :: .symbol row :: rest => (clauses? rest).map (⟨table, row, ·⟩)
  | _ => none

/-- What a statement selects. -/
def Statement.selection? (s : Statement) : Option Selection :=
  (place? (symbols s.text.toList) s.params).bind Sql.selection?

/-! ## The clauses of conditions -/

def Predicate.symbols : Predicate → List String
  | .description => ["t", ".", "description", "ILIKE", "%s"]
  | .key column => ["t", ".", column.name, "=", "ANY", "(", "%s", ")"]
  | .tag =>
    ["EXISTS", "(", "SELECT", "1", "FROM", "transaction_tags", "tt", "WHERE",
      "tt", ".", "transaction_id", "=", "t", ".", "id", "AND",
      "tt", ".", "tag_id", "=", "ANY", "(", "%s", ")", ")"]
  | .size comparison => ["ABS", "(", "t", ".", "amount", ")", comparison.sign, "%s"]
  | .notBefore column => ["t", ".", column.name, ">=", "%s"]
  | .before column => ["t", ".", column.name, "<", "%s"]
  | .type => ["t", ".", "type", "=", "ANY", "(", "%s", ")"]
  | .text column => ["t", ".", column.name, "=", "%s"]

def Comparison.relation : Comparison → Relation
  | .equal => .equal
  | .atLeast => .atLeast
  | .atMost => .atMost

namespace Condition

def tokens (c : Condition) : List Token :=
  c.predicate.symbols.map fun s => if s = "%s" then .value c.param else .symbol s

/-- The clause that a condition is read as. -/
def clause (c : Condition) : Clause :=
  match c.predicate with
  | .description => .test (.like (.column "t" "description") c.param)
  | .key column => .test (.oneOf (.column "t" column.name) c.param)
  | .tag =>
    .holdsIn "transaction_tags" "tt"
      [.compare .equal (.column "tt" "transaction_id") (.column "t" "id"),
        .oneOf (.column "tt" "tag_id") c.param]
  | .size comparison => .test (.compare comparison.relation (.size "t" "amount") (.value c.param))
  | .notBefore column => .test (.compare .atLeast (.column "t" column.name) (.value c.param))
  | .before column => .test (.compare .less (.column "t" column.name) (.value c.param))
  | .type => .test (.oneOf (.column "t" "type") c.param)
  | .text column => .test (.compare .equal (.column "t" column.name) (.value c.param))

/-- The text of a condition is read as its clause. Its tokens are cut off at an `AND` or an `ORDER`
after them, and nowhere else. -/
structure Reads (c : Condition) : Prop where
  place : place? (Sql.symbols c.predicate.sql.toList) [c.param] = some c.tokens
  clause? : Sql.clause? c.tokens = some c.clause
  last : conjuncts 0 c.tokens = [c.tokens]
  beforeAnd : ∀ rest, conjuncts 0 (c.tokens ++ .symbol "AND" :: rest) = c.tokens :: conjuncts 0 rest
  beforeOrder : ∀ rest, conjuncts 0 (c.tokens ++ .symbol "ORDER" :: rest) = [c.tokens]

theorem symbols_sql (p : Predicate) : Sql.symbols p.sql.toList = p.symbols := by
  cases p with
  | description | tag | type => decide
  | key column | notBefore column | before column | text column => cases column <;> decide
  | size comparison => cases comparison <;> decide

theorem reads (c : Condition) : c.Reads := by
  obtain ⟨p, v⟩ := c
  have hsql := symbols_sql p
  cases p with
  | description | tag | type =>
    exact ⟨(congrArg (place? · [v]) hsql).trans rfl, rfl, rfl, fun _ => rfl, fun _ => rfl⟩
  | key column | notBefore column | before column | text column =>
    cases column <;>
      exact ⟨(congrArg (place? · [v]) hsql).trans rfl, rfl, rfl, fun _ => rfl, fun _ => rfl⟩
  | size comparison =>
    cases comparison <;>
      exact ⟨(congrArg (place? · [v]) hsql).trans rfl, rfl, rfl, fun _ => rfl, fun _ => rfl⟩

end Condition

/-! ## The clauses of statements -/

/-- Tokens that end the clauses before them. -/
inductive EndsClauses : List Token → Prop
  | nil : EndsClauses []
  | order (rest : List Token) : EndsClauses (.symbol "ORDER" :: rest)

theorem Condition.conjuncts_tokens (c : Condition) {rest : List Token} (hrest : EndsClauses rest) :
    conjuncts 0 (c.tokens ++ rest) = [c.tokens] := by
  cases hrest with
  | nil =>
    rw [List.append_nil]
    exact c.reads.last
  | order rest => exact c.reads.beforeOrder rest

theorem symbols_and (a b : String) :
    symbols (a ++ " AND " ++ b).toList = symbols a.toList ++ "AND" :: symbols b.toList := by
  have h : (a ++ " AND " ++ b).toList = a.toList ++ ' ' :: ("AND".toList ++ ' ' :: b.toList) := by
    simp [String.toList_append]
  rw [h, symbols_append_space, symbols_append_space]
  rfl

/-- The conditions' texts, joined by `AND`, are read as the conditions' clauses, whichever tokens
end them. -/
theorem exists_conjunction (c : Condition) (cs : List Condition) :
    ∃ ts,
      place? (symbols (" AND ".intercalate ((c :: cs).map (·.predicate.sql))).toList)
        ((c :: cs).map (·.param)) = some ts ∧
      ∀ rest, EndsClauses rest →
        (conjuncts 0 (ts ++ rest)).mapM clause? = some ((c :: cs).map Condition.clause) := by
  -- What follows the conditions stays general: the last one is ended by it, every other by `AND`.
  induction cs generalizing c with
  | nil =>
    refine ⟨c.tokens, ?_, ?_⟩
    · simpa using c.reads.place
    · intro rest hrest
      rw [c.conjuncts_tokens hrest]
      simp [c.reads.clause?]
  | cons d cs ih =>
    obtain ⟨ts, hplace, hclauses⟩ := ih d
    refine ⟨c.tokens ++ .symbol "AND" :: ts, ?_, ?_⟩
    · have hand : place? ("AND" ::
          symbols (" AND ".intercalate ((d :: cs).map (·.predicate.sql))).toList)
          ((d :: cs).map (·.param)) = some (.symbol "AND" :: ts) := by
        rw [place?, if_neg (by decide), hplace]
        rfl
      rw [List.map_cons, List.map_cons, String.intercalate_cons_cons, symbols_and]
      change place? _ ([c.param] ++ (d :: cs).map (·.param)) = _
      exact (place?_append c.reads.place _ _).trans (congrArg _ hand)
    · intro rest hrest
      rw [List.append_assoc, List.cons_append, c.reads.beforeAnd, List.mapM_cons, c.reads.clause?,
        hclauses rest hrest]
      rfl

theorem symbols_fromWhere (c : Condition) (cs : List Condition) :
    symbols (fromWhere (c :: cs)).toList =
      ["FROM", "transactions", "t", "WHERE"] ++
        symbols (" AND ".intercalate ((c :: cs).map (·.predicate.sql))).toList := by
  have hopening : "FROM transactions t" ++ " WHERE " = "FROM transactions t WHERE" ++ " " := by
    decide
  have htext : fromWhere (c :: cs) = "FROM transactions t WHERE" ++ " " ++
      " AND ".intercalate ((c :: cs).map (·.predicate.sql)) := by
    rw [← hopening, String.append_assoc]
    rfl
  have hsymbols : symbols "FROM transactions t WHERE".toList =
      ["FROM", "transactions", "t", "WHERE"] := by decide
  rw [htext, String.toList_append, String.toList_append, List.append_assoc, ← hsymbols]
  exact symbols_append_space _ _

/-- The table and the conditions are read as the conditions' clauses, whichever tokens end them. -/
theorem exists_fromWhere (cs : List Condition) :
    ∃ ts,
      place? (symbols (fromWhere cs).toList) (cs.map (·.param)) =
        some ([.symbol "FROM", .symbol "transactions", .symbol "t"] ++ ts) ∧
      ∀ rest, EndsClauses rest → clauses? (ts ++ rest) = some (cs.map Condition.clause) := by
  cases cs with
  | nil =>
    refine ⟨[], by decide, ?_⟩
    intro rest hrest
    cases hrest <;> rfl
  | cons c cs =>
    obtain ⟨ts, hplace, hclauses⟩ := exists_conjunction c cs
    have hopening : place? ["FROM", "transactions", "t", "WHERE"] [] =
        some [.symbol "FROM", .symbol "transactions", .symbol "t", .symbol "WHERE"] := rfl
    refine ⟨.symbol "WHERE" :: ts, ?_, hclauses⟩
    rw [symbols_fromWhere]
    exact (place?_append hopening _ _).trans (congrArg _ hplace)

/-- A statement whose symbols are an opening, the table with the conditions and an ending selects
what the conditions say. -/
theorem selection?_of_symbols {s : Statement} {cs : List Condition} {head tail : List String}
    {vs : List Param} {hs rest : List Token}
    (hsymbols : symbols s.text.toList = head ++ (symbols (fromWhere cs).toList ++ tail))
    (hparams : s.params = cs.map (·.param) ++ vs)
    (hhead : place? head [] = some hs) (hfrom : ∀ t ∈ hs, (t != .symbol "FROM") = true)
    (htail : place? tail vs = some rest) (hrest : EndsClauses rest) :
    s.selection? = some ⟨"transactions", "t", cs.map Condition.clause⟩ := by
  obtain ⟨ts, hplace, hclauses⟩ := exists_fromWhere cs
  have hall : place? (symbols s.text.toList) s.params =
      some (hs ++ ([.symbol "FROM", .symbol "transactions", .symbol "t"] ++ ts ++ rest)) := by
    rw [hsymbols, hparams, ← List.nil_append (cs.map (·.param) ++ vs), place?_append hhead,
      place?_append hplace, htail]
    rfl
  rw [Statement.selection?, hall, Option.bind_some, Sql.selection?,
    List.dropWhile_append_of_pos hfrom]
  exact congrArg (Option.map _) (hclauses rest hrest)

def countOpening : List String :=
  ["SELECT", "COUNT", "(", "*", ")", ":", ":", "bigint"]

def selectOpening : List String :=
  "SELECT" :: [","].intercalate (selectedColumns.map (["t", ".", ·]))

def selectEnding : List String :=
  ["ORDER", "BY", "t", ".", "date", "DESC", ",", "t", ".", "id", "DESC", "LIMIT", "%s", "OFFSET",
    "%s"]

theorem selection?_countStatement (cs : List Condition) :
    (countStatement cs).selection? = some ⟨"transactions", "t", cs.map Condition.clause⟩ := by
  have hopening : symbols "SELECT COUNT(*)::bigint".toList = countOpening := by decide
  have hspace : "SELECT COUNT(*)::bigint " = "SELECT COUNT(*)::bigint" ++ " " := by decide
  have htext : (countStatement cs).text = "SELECT COUNT(*)::bigint" ++ " " ++ fromWhere cs := by
    rw [text_countStatement, hspace]
  have hsymbols : symbols (countStatement cs).text.toList =
      countOpening ++ (symbols (fromWhere cs).toList ++ []) := by
    rw [htext, String.toList_append, String.toList_append, List.append_assoc, List.append_nil,
      ← hopening]
    exact symbols_append_space _ _
  have hhead : place? countOpening [] = some (countOpening.map .symbol) := rfl
  have htail : place? [] [] = some [] := rfl
  exact selection?_of_symbols hsymbols (List.append_nil _).symm hhead (by decide) htail .nil

theorem symbols_selectStatement (cs : List Condition) (page pageSize : Int) :
    symbols (selectStatement cs page pageSize).text.toList =
      selectOpening ++ (symbols (fromWhere cs).toList ++ selectEnding) := by
  have hopening : symbols ("SELECT " ++ ", ".intercalate (selectedColumns.map ("t." ++ ·))).toList =
      selectOpening := by decide +kernel
  have hending : symbols "ORDER BY t.date DESC, t.id DESC LIMIT %s OFFSET %s".toList =
      selectEnding := by decide
  have hspace : " ORDER BY t.date DESC, t.id DESC LIMIT %s OFFSET %s" =
      " " ++ "ORDER BY t.date DESC, t.id DESC LIMIT %s OFFSET %s" := by decide
  rw [text_selectStatement, hspace, ← hopening, ← hending, ← symbols_append_space,
    ← symbols_append_space]
  simp only [String.toList_append, List.append_assoc]
  rfl

theorem selection?_selectStatement (cs : List Condition) (page pageSize : Int) :
    (selectStatement cs page pageSize).selection? =
      some ⟨"transactions", "t", cs.map Condition.clause⟩ := by
  have hhead : place? selectOpening [] = some (selectOpening.map .symbol) := rfl
  have htail : place? selectEnding [.integer pageSize, .integer ((page - 1) * pageSize)] =
      some (.symbol "ORDER" :: _) := rfl
  exact selection?_of_symbols (symbols_selectStatement cs page pageSize) rfl hhead (by decide) htail
    (.order _)

end LedgerSearch.Sql
