import SqlShell.Parsing.Expression
import SqlShell.Statement
/-!
# Reading statements

Each statement starts with a keyword of its own. A statement reader looks at that keyword first: if another
token comes next it takes nothing and gives nothing, so that the readers can be tried in any order; if the
keyword is there, the rest must be there too. Every reader is given the number of parentheses that expressions
may still open.
-/

namespace SqlShell.Parsing

open Reader

/-- `AS name`, if it is there. -/
def namedAs? (expected : Expectation) : Reader (Option Token) := do
  if ← keyword? .as_ then some <$> identifier expected else return none

/-- `*`, or an expression with an optional alias. -/
def readSelectItem (nesting : Nat) : Reader SelectItem := do
  match ← take? (· = .symbol .asterisk) with
  | some star => return .star star
  | none =>
    let e ← (expression nesting).read
    let columnAlias ← namedAs? .columnAlias
    return .expression e columnAlias

/-- `WHERE expression`, if it is there. -/
def condition? (nesting : Nat) : Reader (Option Expression) := do
  if ← keyword? .where_ then some <$> (expression nesting).read else return none

/-- `DESC`, or `ASC`, or neither; whether the order is descending. -/
def descending : Reader Bool := do
  if ← keyword? .desc then return true
  let _ ← keyword? .asc
  return false

/-- An expression with an optional direction. -/
def readSortKey (nesting : Nat) : Reader SortKey := do
  let e ← (expression nesting).read
  return ⟨e, ← descending⟩

/-- Values in parentheses. -/
def readRow (nesting : Nat) : Reader (List Expression) := do
  symbol .leftParen
  let row ← (expression nesting).commaSeparated.read
  symbol .rightParen
  return row

/-- `column = expression` -/
def readAssignment (nesting : Nat) : Reader Assignment := do
  let column ← identifier .columnName
  symbol .equal
  let value ← (expression nesting).read
  return ⟨column, value⟩

/-- A word that may stand where a type is expected. -/
def isTypeWord : Token.Kind → Bool
  | .keyword _ | .identifier _ => true
  | _ => false

/-- `NOT NULL`, `NULL`, or neither. -/
def readNullClause : Reader NullClause := do
  if ← keyword? .not then
    keyword .null
    return .notNull
  if ← keyword? .null then return .null
  return .unspecified

/-- `name type [NOT NULL | NULL]` -/
def readColumnDefinition : Reader ColumnDefinition := do
  let name ← identifier .columnName
  let type ← expect isTypeWord .columnType
  return ⟨name, type, ← readNullClause⟩

/-! ### Lists of items -/

theorem namedAs?_fromFront (expected : Expectation) : (namedAs? expected).FromFront := by
  refine (FromFront.keyword? _).bind fun found => ?_
  cases found
  · exact .pure _
  · exact (Progresses.identifier _).fromFront.map _

theorem readSelectItem_progresses (nesting : Nat) : (readSelectItem nesting).Progresses := by
  intro tokens item rest h
  obtain ⟨star, middle, hstar, h⟩ := bind_eq_ok.1 h
  match star with
  | none =>
    have hexpression := (expression nesting).progresses.bind fun e =>
      (namedAs?_fromFront .columnAlias).bind fun columnAlias => FromFront.pure (SelectItem.expression e columnAlias)
    obtain ⟨hsuffix, hlt⟩ := hexpression h
    have hfront := FromFront.take? _ hstar
    exact ⟨hsuffix.trans hfront, Nat.lt_of_lt_of_le hlt hfront.length_le⟩
  | some star =>
    obtain ⟨-, rfl⟩ := pure_eq_ok.1 h
    match tokens with
    | [] => simp [take?] at hstar
    | t :: tail =>
      rw [take?] at hstar
      split at hstar
      · obtain ⟨-, rfl⟩ := Prod.mk.inj (Except.ok.inj hstar)
        exact ⟨List.suffix_cons _ _, by simp⟩
      · simp at hstar

theorem condition?_fromFront (nesting : Nat) : (condition? nesting).FromFront := by
  refine (FromFront.keyword? _).bind fun found => ?_
  cases found
  · exact .pure _
  · exact (expression nesting).progresses.fromFront.map _

theorem descending_fromFront : descending.FromFront := by
  refine (FromFront.keyword? _).bind fun found => ?_
  cases found
  · exact (FromFront.keyword? _).bind fun _ => .pure _
  · exact .pure _

theorem readSortKey_progresses (nesting : Nat) : (readSortKey nesting).Progresses :=
  (expression nesting).progresses.bind fun _ => descending_fromFront.bind fun _ => .pure _

theorem readRow_progresses (nesting : Nat) : (readRow nesting).Progresses :=
  (Progresses.symbol _).bind fun _ => (expression nesting).commaSeparated.progresses.fromFront.bind fun _ =>
    (Progresses.symbol _).fromFront.bind fun _ => .pure _

theorem readAssignment_progresses (nesting : Nat) : (readAssignment nesting).Progresses :=
  (Progresses.identifier _).bind fun _ => (Progresses.symbol _).fromFront.bind fun _ =>
    (expression nesting).progresses.fromFront.bind fun _ => .pure _

theorem readNullClause_fromFront : readNullClause.FromFront := by
  refine (FromFront.keyword? _).bind fun found => ?_
  cases found
  · refine (FromFront.keyword? _).bind fun found => ?_
    cases found <;> exact .pure _
  · exact (Progresses.keyword _).fromFront.bind fun _ => .pure _

theorem readColumnDefinition_progresses : readColumnDefinition.Progresses :=
  (Progresses.identifier _).bind fun _ => (Progresses.expect _ _).fromFront.bind fun _ =>
    readNullClause_fromFront.bind fun _ => .pure _

/-- The items of a select list. -/
def selectItems (nesting : Nat) : Phrase (List SelectItem) :=
  .commaSeparated ⟨readSelectItem nesting, readSelectItem_progresses nesting⟩

/-- The keys of an ORDER BY. -/
def sortKeys (nesting : Nat) : Phrase (List SortKey) :=
  .commaSeparated ⟨readSortKey nesting, readSortKey_progresses nesting⟩

/-- The rows of an INSERT. -/
def insertRows (nesting : Nat) : Phrase (List (List Expression)) :=
  .commaSeparated ⟨readRow nesting, readRow_progresses nesting⟩

/-- The assignments of an UPDATE. -/
def assignments (nesting : Nat) : Phrase (List Assignment) :=
  .commaSeparated ⟨readAssignment nesting, readAssignment_progresses nesting⟩

/-- The columns of a table to be made. -/
def columnDefinitions : Phrase (List ColumnDefinition) :=
  .commaSeparated ⟨readColumnDefinition, readColumnDefinition_progresses⟩

/-! ### Statements behind their first keyword -/

/-- `ORDER BY` and its keys, if they are there. -/
def order? (nesting : Nat) : Reader (List SortKey) := do
  if ← keyword? .order then
    keyword .by_
    (sortKeys nesting).read
  else return []

/-- A SELECT without its first keyword. -/
def readSelect (nesting : Nat) : Reader Select := do
  let items ← (selectItems nesting).read
  keyword .from_
  let table ← identifier .tableName
  let tableAlias ← namedAs? .tableAlias
  let condition ← condition? nesting
  let order ← order? nesting
  return ⟨items, table, tableAlias, condition, order⟩

/-- An INSERT without its first keyword. -/
def readInsert (nesting : Nat) : Reader Insert := do
  keyword .into
  let table ← identifier .tableName
  keyword .values
  let rows ← (insertRows nesting).read
  return ⟨table, rows⟩

/-- An UPDATE without its first keyword. -/
def readUpdate (nesting : Nat) : Reader Update := do
  let table ← identifier .tableName
  keyword .set
  let assignments ← (assignments nesting).read
  let condition ← condition? nesting
  return ⟨table, assignments, condition⟩

/-- A DELETE without its first keyword. -/
def readDelete (nesting : Nat) : Reader Delete := do
  keyword .from_
  let table ← identifier .tableName
  let condition ← condition? nesting
  return ⟨table, condition⟩

/-- A CREATE TABLE without its first keyword. -/
def readCreateTable : Reader CreateTable := do
  keyword .table
  let name ← identifier .tableName
  symbol .leftParen
  let columns ← columnDefinitions.read
  symbol .rightParen
  return ⟨name, columns⟩

/-- A DROP TABLE without its first keyword. -/
def readDropTable : Reader DropTable := do
  keyword .table
  let name ← identifier .tableName
  return ⟨name⟩

theorem order?_fromFront (nesting : Nat) : (order? nesting).FromFront := by
  refine (FromFront.keyword? _).bind fun found => ?_
  cases found
  · exact .pure _
  · exact (Progresses.keyword _).fromFront.bind fun _ => (sortKeys nesting).progresses.fromFront

theorem readSelect_fromFront (nesting : Nat) : (readSelect nesting).FromFront :=
  (selectItems nesting).progresses.fromFront.bind fun _ => (Progresses.keyword _).fromFront.bind fun _ =>
    (Progresses.identifier _).fromFront.bind fun _ => (namedAs?_fromFront _).bind fun _ =>
      (condition?_fromFront nesting).bind fun _ => (order?_fromFront nesting).bind fun _ => .pure _

theorem readInsert_fromFront (nesting : Nat) : (readInsert nesting).FromFront :=
  (Progresses.keyword _).fromFront.bind fun _ => (Progresses.identifier _).fromFront.bind fun _ =>
    (Progresses.keyword _).fromFront.bind fun _ => (insertRows nesting).progresses.fromFront.bind fun _ => .pure _

theorem readUpdate_fromFront (nesting : Nat) : (readUpdate nesting).FromFront :=
  (Progresses.identifier _).fromFront.bind fun _ => (Progresses.keyword _).fromFront.bind fun _ =>
    (assignments nesting).progresses.fromFront.bind fun _ => (condition?_fromFront nesting).bind fun _ => .pure _

theorem readDelete_fromFront (nesting : Nat) : (readDelete nesting).FromFront :=
  (Progresses.keyword _).fromFront.bind fun _ => (Progresses.identifier _).fromFront.bind fun _ =>
    (condition?_fromFront nesting).bind fun _ => .pure _

theorem readCreateTable_fromFront : readCreateTable.FromFront :=
  (Progresses.keyword _).fromFront.bind fun _ => (Progresses.identifier _).fromFront.bind fun _ =>
    (Progresses.symbol _).fromFront.bind fun _ => columnDefinitions.progresses.fromFront.bind fun _ =>
      (Progresses.symbol _).fromFront.bind fun _ => .pure _

theorem readDropTable_fromFront : readDropTable.FromFront :=
  (Progresses.keyword _).fromFront.bind fun _ => (Progresses.identifier _).fromFront.bind fun _ => .pure _

/-! ### Whole statements -/

/-- Reads on behind a keyword if that comes next, and otherwise takes nothing. -/
def afterKeyword {α : Type} (k : Keyword) (body : Reader α) : Reader (Option α) := do
  if ← keyword? k then some <$> body else return none

/-- A SELECT, if its keyword comes next. -/
def select? (nesting : Nat) : Reader (Option Select) := afterKeyword .select (readSelect nesting)

/-- An INSERT, if its keyword comes next. -/
def insert? (nesting : Nat) : Reader (Option Insert) := afterKeyword .insert (readInsert nesting)

/-- An UPDATE, if its keyword comes next. -/
def update? (nesting : Nat) : Reader (Option Update) := afterKeyword .update (readUpdate nesting)

/-- A DELETE, if its keyword comes next. -/
def delete? (nesting : Nat) : Reader (Option Delete) := afterKeyword .delete (readDelete nesting)

/-- A CREATE TABLE, if its keyword comes next. -/
def createTable? : Reader (Option CreateTable) := afterKeyword .create readCreateTable

/-- A DROP TABLE, if its keyword comes next. -/
def dropTable? : Reader (Option DropTable) := afterKeyword .drop readDropTable

/-- The readers of the six statements. -/
def statementReaders (nesting : Nat) : List (Reader (Option Statement)) :=
  [Option.map .select <$> select? nesting, Option.map .insert <$> insert? nesting,
    Option.map .update <$> update? nesting, Option.map .delete <$> delete? nesting,
    Option.map .create <$> createTable?, Option.map .drop <$> dropTable?]

/-- What the first reader gives that gives anything. -/
def firstOf {α : Type} (expected : Expectation) : List (Reader (Option α)) → Reader α
  | [] => fail expected
  | reader :: readers => do
    match ← reader with
    | some a => return a
    | none => firstOf expected readers

/-- The reader takes a nonempty piece and gives a value, or takes nothing and gives none. -/
def Attempts {α : Type} (p : Reader (Option α)) : Prop :=
  ∀ ⦃tokens o rest⦄, p tokens = .ok (o, rest) →
    (o = none → rest = tokens) ∧ (o ≠ none → rest <:+ tokens ∧ rest.length < tokens.length)

theorem afterKeyword_attempts {α : Type} {k : Keyword} {body : Reader α} (hbody : body.FromFront) :
    Attempts (afterKeyword k body) := by
  intro tokens o rest h
  obtain ⟨found, middle, hfound, h⟩ := bind_eq_ok.1 h
  obtain ⟨t?, ht, rfl⟩ := map_eq_ok.1 hfound
  match tokens with
  | [] =>
    obtain ⟨rfl, rfl⟩ := Prod.mk.inj (Except.ok.inj ht)
    obtain ⟨rfl, rfl⟩ := pure_eq_ok.1 h
    simp
  | t :: tail =>
    rw [take?] at ht
    split at ht
    · obtain ⟨rfl, rfl⟩ := Prod.mk.inj (Except.ok.inj ht)
      obtain ⟨a, ha, rfl⟩ := map_eq_ok.1 h
      have hsuffix := hbody ha
      exact ⟨by simp, fun _ => ⟨hsuffix.trans (List.suffix_cons _ _), Nat.lt_succ_of_le hsuffix.length_le⟩⟩
    · obtain ⟨rfl, rfl⟩ := Prod.mk.inj (Except.ok.inj ht)
      obtain ⟨rfl, rfl⟩ := pure_eq_ok.1 h
      simp

theorem Attempts.map {α β : Type} {p : Reader (Option α)} (hp : Attempts p) (f : α → β) :
    Attempts (Option.map f <$> p) := by
  intro tokens o rest h
  obtain ⟨o, ho, rfl⟩ := map_eq_ok.1 h
  simpa using hp ho

theorem firstOf_progresses {α : Type} {expected : Expectation} {readers : List (Reader (Option α))}
    (h : ∀ p ∈ readers, Attempts p) : (firstOf expected readers).Progresses := by
  induction readers with
  | nil => exact .fail expected
  | cons p readers ih =>
    intro tokens a rest hfirst
    obtain ⟨o, middle, ho, hnext⟩ := bind_eq_ok.1 hfirst
    obtain ⟨hnone, hsome⟩ := h p (by simp) ho
    cases o with
    | none => exact hnone rfl ▸ ih (fun q hq => h q (by simp [hq])) hnext
    | some a =>
      obtain ⟨-, rfl⟩ := pure_eq_ok.1 hnext
      exact hsome (by simp)

theorem statementReaders_attempt (nesting : Nat) : ∀ p ∈ statementReaders nesting, Attempts p := by
  simp only [statementReaders, List.mem_cons, List.not_mem_nil, or_false]
  rintro p (rfl | rfl | rfl | rfl | rfl | rfl)
  · exact (afterKeyword_attempts (readSelect_fromFront nesting)).map _
  · exact (afterKeyword_attempts (readInsert_fromFront nesting)).map _
  · exact (afterKeyword_attempts (readUpdate_fromFront nesting)).map _
  · exact (afterKeyword_attempts (readDelete_fromFront nesting)).map _
  · exact (afterKeyword_attempts readCreateTable_fromFront).map _
  · exact (afterKeyword_attempts readDropTable_fromFront).map _

/-- One statement. -/
def statement (nesting : Nat) : Phrase Statement where
  read := firstOf .statement (statementReaders nesting)
  progresses := firstOf_progresses (statementReaders_attempt nesting)

end SqlShell.Parsing
