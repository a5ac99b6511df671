import Mathlib.Data.List.Nodup
import Mathlib.Data.List.Perm.Basic
import LedgerSearch.Database.Lookup
import LedgerSearch.Proofs.Lookup.Order
import LedgerSearch.Proofs.Sql.Listing

/-!
# Databases and catalogues agree

A database whose tables hold the entities of a catalogue finds what the
catalogue finds. The statement of a lookup is read as a listing. On ASCII, the
listing selects the records of the entities that the catalogue looks at, and it
orders and keeps them as the catalogue does. An order by name and number leaves
nothing open when no two accounts have the same number, so there is only one
answer, and its rows are read back as the entities they were written for.

* `listing?_accounts`, `listing?_entities`: what the statement of a lookup lists.
* `LooksUp.rows_eq`: the rows that answer a listing are those of what the catalogue finds.
* `resolver_agrees_with_catalogue`: lookups in the database and in the catalogue agree.
-/

namespace LedgerSearch

open Sql

/-! ## Tables of entities -/

def Account.record (a : Account) : Record
  | "id" => .integer a.id
  | "name" => .text a.name
  | "account_type" => .text a.kind.name
  | _ => .null

def Entity.record (e : Entity) : Record
  | "id" => .integer e.id
  | "name" => .text e.name
  | _ => .null

/-- The tables that hold the entities of a catalogue, one record for each. -/
def Catalogue.tables (c : Catalogue) : Tables
  | "accounts" => c.accounts.map Account.record
  | "categories" => c.categories.map Entity.record
  | "budgets" => c.budgets.map Entity.record
  | "bills" => c.bills.map Entity.record
  | "tags" => c.tags.map Entity.record
  | _ => []

theorem Catalogue.tables_tableName (c : Catalogue) (kind : EntityKind) :
    c.tables (Database.tableName kind) = (c.entitiesOf kind).map Entity.record := by
  cases kind <;> rfl

theorem Entity.ranks_le_iff (a b : Entity) :
    [rank (.text a.name), rank (.integer a.id)] ≤ [rank (.text b.name), rank (.integer b.id)] ↔
      a.precedes b = true := by
  rw [precedes_iff, Listing.ranks_cons_le, Listing.ranks_cons_le, rank_text_lt, rank_text_inj,
    rank_integer_lt, rank_integer_inj, Int.le_iff_lt_or_eq]
  simp

/-- All characters of the text are ASCII ones. -/
def Text.IsAscii (s : String) : Prop :=
  ∀ c ∈ s.toList, c.toNat < 0x80

instance : DecidablePred Text.IsAscii := fun s =>
  List.decidableBAll (fun c : Char => c.toNat < 0x80) s.toList

namespace Database

/-! ## Statements of lookups -/

/-- What the statement of a lookup of accounts lists. -/
def accountListing (kinds : List AccountKind) (term : String) (limit : Option Int) : Listing where
  columns := ["id", "name", "account_type"]
  table := "accounts"
  tests :=
    [.like (.column "accounts" "name") (.text (Pattern.holding term)),
      .oneOf (.column "accounts" "account_type") (.texts (kindNames kinds))]
  order := ["name", "id"]
  limit := limit.map Int.toNat

/-- What the statement of any other lookup lists. -/
def entityListing (kind : EntityKind) (term : String) (limit : Option Int) : Listing where
  columns := ["id", "name"]
  table := tableName kind
  tests := [.like (.column (tableName kind) "name") (.text (Pattern.holding term))]
  order := ["name", "id"]
  limit := limit.map Int.toNat

theorem symbols_accounts :
    symbols ("SELECT id, name, account_type FROM accounts " ++
      "WHERE name ILIKE %s AND account_type = ANY(%s) ORDER BY name, id LIMIT %s").toList =
    ["SELECT", "id", ",", "name", ",", "account_type", "FROM", "accounts",
      "WHERE", "name", "ILIKE", "%s", "AND", "account_type", "=", "ANY", "(", "%s", ")",
      "ORDER", "BY", "name", ",", "id", "LIMIT", "%s"] := by
  decide +kernel

def entitySymbols (kind : EntityKind) : List String :=
  ["SELECT", "id", ",", "name", "FROM", tableName kind, "WHERE", "name", "ILIKE", "%s",
    "ORDER", "BY", "name", ",", "id"]

theorem symbols_entities (kind : EntityKind) :
    symbols ("SELECT id, name FROM " ++ tableName kind ++
      " WHERE name ILIKE %s ORDER BY name, id").toList = entitySymbols kind := by
  cases kind <;> decide +kernel

theorem symbols_limit (text : String) :
    symbols (text ++ " LIMIT %s").toList = symbols text.toList ++ ["LIMIT", "%s"] := by
  have hspace : " LIMIT %s".toList = ' ' :: "LIMIT %s".toList := by decide
  have hlimit : symbols "LIMIT %s".toList = ["LIMIT", "%s"] := by decide
  rw [String.toList_append, hspace, symbols_append_space, hlimit]

/-- A limit that is not negative is read back. -/
theorem ending?_limitParam {limit : Option Int} (hlimit : ∀ n ∈ limit, 0 ≤ n) :
    ending? [.symbol "ORDER", .symbol "BY", .symbol "name", .symbol ",", .symbol "id",
      .symbol "LIMIT", .value (limitParam limit)] = some (["name", "id"], limit.map Int.toNat) := by
  have h : limit? [.symbol "LIMIT", .value (limitParam limit)] = some (limit.map Int.toNat) := by
    cases limit with
    | none => rfl
    | some n => exact if_neg (Int.not_lt.mpr (hlimit n rfl))
  exact congrArg (Option.bind · fun limit => some (["name", "id"], limit)) h

theorem listing?_accounts (kinds : List AccountKind) (term : String) {limit : Option Int}
    (hlimit : ∀ n ∈ limit, 0 ≤ n) :
    (lookupStatement ⟨.accounts kinds, term, limit⟩).listing? =
      some (accountListing kinds term limit) := by
  have htext : (lookupStatement ⟨.accounts kinds, term, limit⟩).text =
      "SELECT id, name, account_type FROM accounts " ++
        "WHERE name ILIKE %s AND account_type = ANY(%s) ORDER BY name, id LIMIT %s" := rfl
  rw [Statement.listing?, htext, symbols_accounts]
  exact congrArg (Option.bind · fun ending =>
    some { accountListing kinds term none with order := ending.1, limit := ending.2 })
    (ending?_limitParam hlimit)

theorem listing?_entities (kind : EntityKind) (term : String) {limit : Option Int}
    (hlimit : ∀ n ∈ limit, 0 ≤ n) :
    (lookupStatement ⟨.entities kind, term, limit⟩).listing? =
      some (entityListing kind term limit) := by
  cases limit with
  | none =>
    have htext : (lookupStatement ⟨.entities kind, term, none⟩).text =
        "SELECT id, name FROM " ++ tableName kind ++
          " WHERE name ILIKE %s ORDER BY name, id" := rfl
    rw [Statement.listing?, htext, symbols_entities]
    cases kind <;> rfl
  | some n =>
    have htext : (lookupStatement ⟨.entities kind, term, some n⟩).text =
        "SELECT id, name FROM " ++ tableName kind ++
          " WHERE name ILIKE %s ORDER BY name, id" ++ " LIMIT %s" := rfl
    have hending (kind : EntityKind) := congrArg (Option.bind · fun ending =>
      some { entityListing kind term none with order := ending.1, limit := ending.2 })
      (ending?_limitParam hlimit)
    rw [Statement.listing?, htext, symbols_limit, symbols_entities]
    cases kind with
    | category => exact hending .category
    | budget => exact hending .budget
    | bill => exact hending .bill
    | tag => exact hending .tag

/-! ## Listings that look a term up -/

/-- The listing is the lookup of a term among the candidates of some items: its table has a record
for each item, and it selects, orders and keeps what the lookup does. -/
structure LooksUp {α : Type} (l : Listing) (tables : Tables) (entity : α → Entity)
    (record : α → Record) (items : List α) (candidate : α → Bool) (term : String)
    (limit : Option Int) : Prop where
  table : tables l.table = items.map record
  selects : ∀ a ∈ items, l.Selects (record a) ↔
    Catalogue.holds (entity a).name term = true ∧ candidate a = true
  ranks : ∀ a b, l.ranks (record a) ≤ l.ranks (record b) ↔ (entity a).precedes (entity b) = true
  kept : ∀ as : List α, l.kept as = Catalogue.upTo limit as

/-- On ASCII, the pattern of a term is matched by the names that hold the term. -/
theorem holds_like_holding {table name term : String} {r : Record} (hr : r "name" = .text name)
    (hname : Text.IsAscii name) (hterm : Text.IsAscii term) :
    (Test.like (.column table "name") (.text (Pattern.holding term))).Holds Char.toLower
        (View.only table fun column => documentValue? (r column)) ↔
      Catalogue.holds name term = true := by
  have hcolumn : (Operand.column table "name").value?
      (View.only table fun column => documentValue? (r column)) = some (.text name) :=
    (congrFun (View.only_self _ _) "name").trans (congrArg documentValue? hr)
  rw [Test.holds_like hcolumn rfl, Catalogue.holds, Text.isInfix_iff,
    Text.foldChars_of_ascii hterm, Text.foldChars_of_ascii hname]
  exact Pattern.matches_holding Char.toLower term name.toList

theorem mem_kindNames {kinds : List AccountKind} {kind : AccountKind} :
    kind.name ∈ kindNames kinds ↔ kinds.contains kind = true := by
  have hinj : Function.Injective AccountKind.name := by
    intro a b h
    simpa using congrArg AccountKind.ofName? h
  rw [kindNames, List.mem_mergeSort, List.mem_map_of_injective hinj, List.contains_iff_mem]

theorem kept_eq_upTo {α : Type} {l : Listing} {limit : Option Int} (hlimit : ∀ n ∈ limit, 0 ≤ n)
    (hl : l.limit = limit.map Int.toNat) (as : List α) : l.kept as = Catalogue.upTo limit as := by
  rw [Listing.kept, hl]
  cases limit with
  | none => rfl
  | some n => exact (if_neg (Int.not_lt.mpr (hlimit n rfl))).symm

section

variable {c : Catalogue} {term : String} {limit : Option Int}

theorem looksUp_accounts (hnames : ∀ a ∈ c.accounts, Text.IsAscii a.name)
    (hterm : Text.IsAscii term) (hlimit : ∀ n ∈ limit, 0 ≤ n) (kinds : List AccountKind) :
    LooksUp (accountListing kinds term limit) c.tables Account.toEntity Account.record c.accounts
      (kinds.contains ·.kind) term limit where
  table := rfl
  selects a ha := by
    have hname : a.record "name" = .text a.name := rfl
    simp only [Listing.Selects, accountListing, List.forall_mem_cons, List.not_mem_nil,
      false_implies, implies_true, and_true]
    rw [holds_like_holding hname (hnames a ha) hterm, Test.holds_oneOf rfl rfl, ← mem_kindNames]
    rfl
  ranks a b := Entity.ranks_le_iff a.toEntity b.toEntity
  kept := kept_eq_upTo hlimit rfl

theorem looksUp_entities {kind : EntityKind}
    (hnames : ∀ e ∈ c.entitiesOf kind, Text.IsAscii e.name) (hterm : Text.IsAscii term)
    (hlimit : ∀ n ∈ limit, 0 ≤ n) :
    LooksUp (entityListing kind term limit) c.tables id Entity.record (c.entitiesOf kind)
      (fun _ => true) term limit where
  table := c.tables_tableName kind
  selects e he := by
    have hname : e.record "name" = .text e.name := rfl
    simp only [Listing.Selects, entityListing, List.forall_mem_cons, List.not_mem_nil,
      false_implies, implies_true, and_true]
    exact holds_like_holding hname (hnames e he) hterm
  ranks := Entity.ranks_le_iff
  kept := kept_eq_upTo hlimit rfl

end

/-- The rows that answer a lookup are those of what the catalogue finds, in the same order. -/
theorem LooksUp.rows_eq {α : Type} {l : Listing} {tables : Tables} {entity : α → Entity}
    {record : α → Record} {items : List α} {candidate : α → Bool} {term : String}
    {limit : Option Int} (h : LooksUp l tables entity record items candidate term limit)
    (hentity : ∀ a ∈ items, ∀ b ∈ items, entity a = entity b → a = b)
    {rows : List Row} (hrows : l.IsAnswer tables rows) :
    rows = (Catalogue.find entity (items.filter candidate) term limit).map
      fun a => l.row (record a) := by
  obtain ⟨ordered, hperm, hordered, rfl⟩ := hrows
  have hselected : (tables l.table).filter (l.Selects ·) =
      ((items.filter candidate).filter fun a => Catalogue.holds (entity a).name term).map
        record := by
    rw [h.table, List.filter_map, List.filter_filter]
    refine congrArg (List.map record) (List.filter_congr fun a ha => ?_)
    rw [Bool.eq_iff_iff]
    simpa using h.selects a ha
  rw [hselected] at hperm
  -- Every record of the answer was written for an item, so the answer orders items.
  obtain ⟨as, rfl, has⟩ : ∃ as, ordered = List.map record as ∧ as.Perm _ :=
    (congrFun (congrFun (List.eq_map_comp_perm record) ordered) _).mpr hperm
  have hprecedes : as.Pairwise fun a b => (entity a).precedes (entity b) = true :=
    (List.pairwise_map.mp hordered).imp fun hle => (h.ranks _ _).mp hle
  have hmem : ∀ a ∈ as, a ∈ items := fun a ha =>
    List.mem_of_mem_filter (List.mem_of_mem_filter (has.subset ha))
  have hdistinct : ∀ a ∈ as, ∀ b ∈ as, entity a = entity b → a = b :=
    fun a ha b hb => hentity a (hmem a ha) b (hmem b hb)
  rw [Catalogue.find_eq_upTo as limit has hprecedes hdistinct, ← h.kept, l.kept_map, List.map_map]
  rfl

/-! ## Reading rows back -/

theorem accountOfRow_record (a : Account) :
    accountOfRow [.integer a.id, .text a.name, .text a.kind.name] = .ok a := by
  obtain ⟨⟨id, name⟩, kind⟩ := a
  cases kind <;> rfl

theorem entityOfRow_record (e : Entity) : entityOfRow [.integer e.id, .text e.name] = .ok e :=
  rfl

theorem mapM_map_eq_ok {α β ε : Type} {read : β → Except ε α} {write : α → β}
    (h : ∀ a, read (write a) = .ok a) (as : List α) : (as.map write).mapM read = .ok as := by
  induction as with
  | nil => rfl
  | cons a as ih =>
    rw [List.map_cons, List.mapM_cons, h, ih]
    rfl

/-! ## Agreement -/

/-- The database answers the statement, with what the statement lists. -/
def Answers (db : Database) (tables : Tables) (s : Statement) : Prop :=
  ∀ l, s.listing? = some l → ∃ rows, db.rows s = .ok rows ∧ l.IsAnswer tables rows

/-- The database that computes its answers from tables. -/
def answering (tables : Tables) : Database where
  rows s :=
    match s.listing? with
    | some l => .ok (l.answer tables)
    | none => .ok []

theorem answers_answering (tables : Tables) (s : Statement) :
    (answering tables).Answers tables s := by
  intro l hl
  refine ⟨l.answer tables, ?_, l.isAnswer_answer tables⟩
  simp only [answering, hl]

theorem answer_of_rows {db : Database} {l : Lookup} {rows : List Row}
    (h : db.rows (lookupStatement l) = .ok rows) : db.answer l = .ok rows := by
  rw [answer, h]
  rfl

theorem accounts_of_answer {db : Database} {kinds : List AccountKind} {term : String}
    {limit : Option Int} {rows : List Row}
    (h : db.answer ⟨.accounts kinds, term, limit⟩ = .ok rows) :
    (resolver db).accounts kinds term limit = rows.mapM accountOfRow := by
  simp only [resolver, h]
  rfl

theorem entities_of_answer {db : Database} {kind : EntityKind} {term : String}
    {limit : Option Int} {rows : List Row}
    (h : db.answer ⟨.entities kind, term, limit⟩ = .ok rows) :
    (resolver db).entities kind term limit = rows.mapM entityOfRow := by
  simp only [resolver, h]
  rfl

/-- Whichever database answers lookups from the tables of a catalogue, it finds the same entities as
the catalogue in the same order, for every term and every limit that is not negative. Terms and
names are ASCII, and no two accounts have the same number. -/
theorem resolver_agrees_with_catalogue {c : Catalogue}
    (haccounts : ∀ a ∈ c.accounts, Text.IsAscii a.name)
    (hentities : ∀ kind, ∀ e ∈ c.entitiesOf kind, Text.IsAscii e.name)
    (hids : (c.accounts.map fun a => a.id).Nodup)
    {db : Database} (hdb : ∀ l, db.Answers c.tables (lookupStatement l))
    {term : String} (hterm : Text.IsAscii term)
    {limit : Option Int} (hlimit : ∀ n ∈ limit, 0 ≤ n) :
    (∀ kinds, (resolver db).accounts kinds term limit = c.resolver.accounts kinds term limit) ∧
    ∀ kind, (resolver db).entities kind term limit = c.resolver.entities kind term limit := by
  constructor
  · intro kinds
    have hdistinct : ∀ a ∈ c.accounts, ∀ b ∈ c.accounts, a.toEntity = b.toEntity → a = b :=
      fun a ha b hb h => List.inj_on_of_nodup_map hids ha hb (congrArg Entity.id h)
    obtain ⟨rows, hrows, hanswer⟩ := hdb _ _ (listing?_accounts kinds term hlimit)
    rw [accounts_of_answer (answer_of_rows hrows),
      (looksUp_accounts haccounts hterm hlimit kinds).rows_eq hdistinct hanswer]
    exact mapM_map_eq_ok accountOfRow_record _
  · intro kind
    obtain ⟨rows, hrows, hanswer⟩ := hdb _ _ (listing?_entities kind term hlimit)
    rw [entities_of_answer (answer_of_rows hrows),
      (looksUp_entities (hentities kind) hterm hlimit).rows_eq (fun _ _ _ _ h => h) hanswer,
      List.filter_true]
    exact mapM_map_eq_ok entityOfRow_record _

/-- Names that a pattern would confuse if the term were not escaped. -/
def reductions : Catalogue where
  accounts :=
    [⟨⟨7, "Save 50%_off"⟩, .asset⟩, ⟨⟨4, "save 50%_OFF"⟩, .loan⟩, ⟨⟨3, "Save 50 % off"⟩, .asset⟩,
      ⟨⟨1, "50%_off"⟩, .cash⟩, ⟨⟨2, "Save 50%_off"⟩, .loan⟩]
  tags := [⟨1, "50%_off"⟩, ⟨2, "50x_off"⟩]

theorem resolver_agrees_with_catalogue_reductions :
    (resolver (answering reductions.tables)).accounts [.loan, .asset, .loan] "50%_O" (some 2) =
        .ok [⟨⟨2, "Save 50%_off"⟩, .loan⟩, ⟨⟨7, "Save 50%_off"⟩, .asset⟩] ∧
      (resolver (answering reductions.tables)).entities .tag "50%_O" (some 2) =
        .ok [⟨1, "50%_off"⟩] := by
  have haccounts : reductions.resolver.accounts [.loan, .asset, .loan] "50%_O" (some 2) =
      .ok [⟨⟨2, "Save 50%_off"⟩, .loan⟩, ⟨⟨7, "Save 50%_off"⟩, .asset⟩] :=
    congrArg Except.ok (Catalogue.find_eq_upTo
      ([⟨⟨2, "Save 50%_off"⟩, .loan⟩, ⟨⟨7, "Save 50%_off"⟩, .asset⟩,
        ⟨⟨4, "save 50%_OFF"⟩, .loan⟩] : List Account)
      (some 2) (by decide +kernel) (by decide +kernel) (by decide +kernel))
  have htags : reductions.resolver.entities .tag "50%_O" (some 2) = .ok [⟨1, "50%_off"⟩] :=
    congrArg Except.ok (Catalogue.find_eq_upTo ([⟨1, "50%_off"⟩] : List Entity) (some 2)
      (by decide +kernel) (by decide +kernel) (by decide +kernel))
  have hterm : Text.IsAscii "50%_O" := by decide +kernel
  have hlimit : ∀ n ∈ some (2 : Int), 0 ≤ n := by decide
  have hagree := resolver_agrees_with_catalogue (c := reductions) (by decide +kernel)
    (fun kind => by cases kind <;> decide +kernel) (by decide +kernel)
    (answers_answering reductions.tables <| lookupStatement ·) hterm hlimit
  exact ⟨(hagree.1 _).trans haccounts, (hagree.2 _).trans htags⟩

end Database

end LedgerSearch
