import Mathlib.Data.List.Forall2
import Mathlib.Data.List.Perm.Basic
import SqlShell.Proofs.Parsing.Dispatch
import SqlShell.Proofs.Parsing.Walk
/-!
# Walks over statements

The statement readers as walks: `Walk.statement` tries six of them on one place and relies on each to have gone back
where it gives nothing. They do: every walk gives what its reader gives on the tokens in front of the place, and leaves
the stream as `TokenStream.run` does, which does not move it at all where a reader fails (`Walk.Runs`). So it does not
matter in which order the six are tried.
-/

namespace SqlShell

open Parsing

namespace Walk

variable {α β : Type}

/-! ### Parts of statements -/

def namedAs? (expected : Expectation) : Walk (Option Token) := do
  if ← keyword? .as_ then some <$> identifier expected else return none

def selectItem : Walk SelectItem := do
  match ← take? (· = .symbol .asterisk) with
  | some star => return .star star
  | none =>
    let e ← expression
    let columnAlias ← namedAs? .columnAlias
    return .expression e columnAlias

def condition? : Walk (Option Expression) := do
  if ← keyword? .where_ then some <$> expression else return none

def descending : Walk Bool := do
  if ← keyword? .desc then return true
  let _ ← keyword? .asc
  return false

def sortKey : Walk SortKey := do
  let e ← expression
  return ⟨e, ← descending⟩

def row : Walk (List Expression) := do
  symbol .leftParen
  let row ← commaSeparated expression
  symbol .rightParen
  return row

def assignment : Walk Assignment := do
  let column ← identifier .columnName
  symbol .equal
  let value ← expression
  return ⟨column, value⟩

def nullClause : Walk NullClause := do
  if ← keyword? .not then
    keyword .null
    return .notNull
  if ← keyword? .null then return .null
  return .unspecified

def columnDefinition : Walk ColumnDefinition := do
  let name ← identifier .columnName
  let type ← expect isTypeWord .columnType
  return ⟨name, type, ← nullClause⟩

def order? : Walk (List SortKey) := do
  if ← keyword? .order then
    keyword .by_
    commaSeparated sortKey
  else return []

/-! ### Statements behind their first keyword -/

def select : Walk Select := do
  let items ← commaSeparated selectItem
  keyword .from_
  let table ← identifier .tableName
  let tableAlias ← namedAs? .tableAlias
  let condition ← condition?
  let order ← order?
  return ⟨items, table, tableAlias, condition, order⟩

def insert : Walk Insert := do
  keyword .into
  let table ← identifier .tableName
  keyword .values
  let rows ← commaSeparated row
  return ⟨table, rows⟩

def update : Walk Update := do
  let table ← identifier .tableName
  keyword .set
  let assignments ← commaSeparated assignment
  let condition ← condition?
  return ⟨table, assignments, condition⟩

def delete : Walk Delete := do
  keyword .from_
  let table ← identifier .tableName
  let condition ← condition?
  return ⟨table, condition⟩

def createTable : Walk CreateTable := do
  keyword .table
  let name ← identifier .tableName
  symbol .leftParen
  let columns ← commaSeparated columnDefinition
  symbol .rightParen
  return ⟨name, columns⟩

def dropTable : Walk DropTable := do
  keyword .table
  let name ← identifier .tableName
  return ⟨name⟩

/-! ### Whole statements -/

/-- A statement, if its keyword comes next. Otherwise, and on an error, the place is that of entry. -/
def afterKeyword (k : Keyword) (body : Walk α) : Walk (Option α) := attempt do
  if ← keyword? k then some <$> body else return none

def select? : Walk (Option Select) := afterKeyword .select select

def insert? : Walk (Option Insert) := afterKeyword .insert insert

def update? : Walk (Option Update) := afterKeyword .update update

def delete? : Walk (Option Delete) := afterKeyword .delete delete

def createTable? : Walk (Option CreateTable) := afterKeyword .create createTable

def dropTable? : Walk (Option DropTable) := afterKeyword .drop dropTable

/-- What the first walk gives that gives anything. -/
def firstOf (expected : Expectation) : List (Walk (Option α)) → Walk α
  | [] => fail expected
  | w :: walks => do
    match ← w with
    | some a => return a
    | none => firstOf expected walks

/-- The walks of the six statements. -/
def statementWalks : List (Walk (Option Statement)) :=
  [Option.map .select <$> select?, Option.map .insert <$> insert?, Option.map .update <$> update?,
    Option.map .delete <$> delete?, Option.map .create <$> createTable?, Option.map .drop <$> dropTable?]

/-- One statement. -/
def statement : Walk Statement :=
  firstOf .statement statementWalks

/-- Goes on with statements and semicolons between them until the tokens run out, but not for more rounds than the
bound. -/
def statementRounds : Nat → List Statement → Walk (List Statement)
  | 0, statements => return statements
  | bound + 1, statements => do
    if (← get).isDone then return statements
    let s ← statement
    if (← get).isDone then return statements ++ [s]
    let _ ← expect (· = .symbol .semicolon) .statementEnd
    statementRounds bound (statements ++ [s])

/-- All statements that are left. Every round takes a token, so that there are no more rounds than tokens. -/
def statements : Walk (List Statement) := do
  let s ← get
  statementRounds s.rest.length []

/-! ### Walks that go back -/

variable {nesting : Nat} {w : Walk α} {reader : Reader α} {s : TokenStream}

/-- The walk takes the tokens that the reader takes, and none where the reader fails. -/
def Runs (nesting : Nat) (w : Walk α) (reader : Reader α) : Prop :=
  ∀ s : TokenStream, s.nesting = nesting → w.on s = s.run reader

theorem Performs.restoring (h : Performs nesting w reader) : Runs nesting (restoring w) reader := by
  intro s hs
  have hagrees := h s hs
  rw [on_restoring, TokenStream.run]
  cases hread : reader s.rest with
  | error failure =>
    rw [hread] at hagrees
    obtain ⟨taken, hresult⟩ := hagrees
    rw [hresult]
    rfl
  | ok pair =>
    rw [hread] at hagrees
    rw [hagrees.2]
    rfl

theorem Performs.attempt {w : Walk (Option α)} {reader : Reader (Option α)} (h : Performs nesting w reader)
    (hnone : ∀ tokens rest, reader tokens = .ok (none, rest) → rest = tokens) : Runs nesting (attempt w) reader := by
  intro s hs
  have hagrees := h s hs
  rw [on_attempt, TokenStream.run]
  cases hread : reader s.rest with
  | error failure =>
    rw [hread] at hagrees
    obtain ⟨taken, hresult⟩ := hagrees
    rw [hresult]
    rfl
  | ok pair =>
    obtain ⟨a, rest⟩ := pair
    rw [hread] at hagrees
    rw [hagrees.2]
    cases a with
    | some a => rfl
    | none =>
      obtain rfl := hnone _ _ hread
      show (Except.ok none, { s.moveTo s.rest with taken := s.taken }) = (Except.ok none, s.moveTo s.rest)
      rw [TokenStream.moveTo_rest]

theorem Runs.performs (h : Runs nesting w reader) (hfront : reader.FromFront) : Performs nesting w reader := by
  intro s hs
  rw [h s hs, TokenStream.run]
  cases hread : reader s.rest with
  | error failure => exact ⟨s.taken, rfl⟩
  | ok pair => exact ⟨hfront hread, rfl⟩

theorem on_map (f : α → β) (w : Walk α) : (f <$> w).on s = ((w.on s).1.map f, (w.on s).2) := by
  rw [map_eq_pure_bind]
  cases hw : w.on s with
  | mk result next =>
    cases result with
    | error e => exact on_bind_of_error hw
    | ok a => exact on_bind_of_ok hw

theorem run_map (f : α → β) (reader : Reader α) :
    s.run (f <$> reader) = ((s.run reader).1.map f, (s.run reader).2) := by
  have hread : (f <$> reader) s.rest = (reader s.rest).map fun (a, rest) => (f a, rest) := by
    show Except.bind (reader s.rest) _ = _
    cases reader s.rest <;> rfl
  rw [TokenStream.run, TokenStream.run, hread]
  cases reader s.rest <;> rfl

theorem Runs.map (h : Runs nesting w reader) (f : α → β) : Runs nesting (f <$> w) (f <$> reader) := by
  intro s hs
  rw [on_map, run_map, h s hs]

/-! ### Parts of statements and their readers -/

theorem runs_expression : Runs nesting expression (Parsing.expression nesting).read :=
  fun s hs => (Performs.expressionTo (hs ▸ Nat.sub_le _ _)).restoring s hs

namespace Performs

theorem expression : Performs nesting Walk.expression (Parsing.expression nesting).read :=
  runs_expression.performs (Parsing.expression nesting).progresses.fromFront

/-- A choice by whether a keyword comes next. -/
theorem ifKeyword {k : Keyword} {yes no : Walk α} {readYes readNo : Reader α} (hyes : Performs nesting yes readYes)
    (hno : Performs nesting no readNo) :
    Performs nesting (do if ← Walk.keyword? k then yes else no)
      (do if ← Reader.keyword? k then readYes else readNo) := by
  refine (keyword? k).bind fun found => ?_
  cases found with
  | true => exact hyes
  | false => exact hno

theorem namedAs? (expected : Expectation) : Performs nesting (Walk.namedAs? expected) (Parsing.namedAs? expected) :=
  ifKeyword ((identifier expected).map _) (pure none)

theorem selectItem : Performs nesting Walk.selectItem (readSelectItem nesting) := by
  refine (take? _).bind fun star => ?_
  cases star with
  | some star => exact pure _
  | none => exact expression.bind fun e => (namedAs? _).bind fun columnAlias => pure _

theorem condition? : Performs nesting Walk.condition? (Parsing.condition? nesting) :=
  ifKeyword (expression.map _) (pure none)

theorem descending : Performs nesting Walk.descending Parsing.descending :=
  ifKeyword (pure true) ((keyword? _).bind fun _ => pure false)

theorem sortKey : Performs nesting Walk.sortKey (readSortKey nesting) :=
  expression.bind fun _ => descending.bind fun _ => pure _

theorem row : Performs nesting Walk.row (readRow nesting) :=
  (symbol _).bind fun _ => (commaSeparated expression).bind fun _ => (symbol _).bind fun _ => pure _

theorem assignment : Performs nesting Walk.assignment (readAssignment nesting) :=
  (identifier _).bind fun _ => (symbol _).bind fun _ => expression.bind fun _ => pure _

theorem nullClause : Performs nesting Walk.nullClause readNullClause :=
  ifKeyword ((keyword _).bind fun _ => pure _) (ifKeyword (pure _) (pure _))

theorem columnDefinition : Performs nesting Walk.columnDefinition readColumnDefinition :=
  (identifier _).bind fun _ => (expect _ _).bind fun _ => nullClause.bind fun _ => pure _

theorem order? : Performs nesting Walk.order? (Parsing.order? nesting) :=
  ifKeyword ((keyword _).bind fun _ => commaSeparated sortKey) (pure [])

/-! ### Statements and their readers -/

theorem select : Performs nesting Walk.select (readSelect nesting) :=
  (commaSeparated selectItem).bind fun _ => (keyword _).bind fun _ => (identifier _).bind fun _ =>
    (namedAs? _).bind fun _ => condition?.bind fun _ => order?.bind fun _ => pure _

theorem insert : Performs nesting Walk.insert (readInsert nesting) :=
  (keyword _).bind fun _ => (identifier _).bind fun _ => (keyword _).bind fun _ => (commaSeparated row).bind fun _ =>
    pure _

theorem update : Performs nesting Walk.update (readUpdate nesting) :=
  (identifier _).bind fun _ => (keyword _).bind fun _ => (commaSeparated assignment).bind fun _ =>
    condition?.bind fun _ => pure _

theorem delete : Performs nesting Walk.delete (readDelete nesting) :=
  (keyword _).bind fun _ => (identifier _).bind fun _ => condition?.bind fun _ => pure _

theorem createTable : Performs nesting Walk.createTable readCreateTable :=
  (keyword _).bind fun _ => (identifier _).bind fun _ => (symbol _).bind fun _ =>
    (commaSeparated columnDefinition).bind fun _ => (symbol _).bind fun _ => pure _

theorem dropTable : Performs nesting Walk.dropTable readDropTable :=
  (keyword _).bind fun _ => (identifier _).bind fun _ => pure _

theorem runs_afterKeyword {body : Walk α} {readBody : Reader α} (hbody : Performs nesting body readBody)
    (hfront : readBody.FromFront) (k : Keyword) :
    Runs nesting (afterKeyword k body) (Parsing.afterKeyword k readBody) :=
  (ifKeyword (hbody.map some) (pure none)).attempt fun _ _ h => (afterKeyword_attempts hfront h).1 rfl

end Performs

theorem runs_select? : Runs nesting select? (Parsing.select? nesting) :=
  Performs.select.runs_afterKeyword (readSelect_fromFront nesting) _

theorem runs_insert? : Runs nesting insert? (Parsing.insert? nesting) :=
  Performs.insert.runs_afterKeyword (readInsert_fromFront nesting) _

theorem runs_update? : Runs nesting update? (Parsing.update? nesting) :=
  Performs.update.runs_afterKeyword (readUpdate_fromFront nesting) _

theorem runs_delete? : Runs nesting delete? (Parsing.delete? nesting) :=
  Performs.delete.runs_afterKeyword (readDelete_fromFront nesting) _

theorem runs_createTable? : Runs nesting createTable? Parsing.createTable? :=
  Performs.createTable.runs_afterKeyword readCreateTable_fromFront _

theorem runs_dropTable? : Runs nesting dropTable? Parsing.dropTable? :=
  Performs.dropTable.runs_afterKeyword readDropTable_fromFront _

theorem runs_statementWalks : List.Forall₂ (Runs nesting) statementWalks (statementReaders nesting) :=
  .cons (runs_select?.map _) <| .cons (runs_insert?.map _) <| .cons (runs_update?.map _) <|
    .cons (runs_delete?.map _) <| .cons (runs_createTable?.map _) <| .cons (runs_dropTable?.map _) .nil

theorem firstOf_eq (expected : Expectation) (p : Reader (Option α)) (readers : List (Reader (Option α)))
    (tokens : List Token) :
    Parsing.firstOf expected (p :: readers) tokens = match p tokens with
      | .error f => .error f
      | .ok (some a, rest) => .ok (a, rest)
      | .ok (none, rest) => Parsing.firstOf expected readers rest := by
  show Except.bind (p tokens) _ = _
  rcases p tokens with _ | ⟨_ | _, _⟩ <;> rfl

/-- A walk that gives nothing leaves the place to the next one. -/
theorem runs_firstOf {expected : Expectation} {walks : List (Walk (Option α))} {readers : List (Reader (Option α))}
    (h : List.Forall₂ (Runs nesting) walks readers) (hattempt : ∀ p ∈ readers, Attempts p) :
    Runs nesting (firstOf expected walks) (Parsing.firstOf expected readers) := by
  intro s hs
  induction h with
  | nil => exact on_fail expected
  | @cons w p walks readers hw _ ih =>
    have hrest := ih fun q hq => hattempt q (List.mem_cons_of_mem _ hq)
    have hfirst := hw s hs
    rw [TokenStream.run] at hfirst hrest ⊢
    rw [firstOf_eq]
    rcases hread : p s.rest with failure | ⟨_ | a, rest⟩
    · rw [hread] at hfirst
      exact on_bind_of_error hfirst
    · rw [hread] at hfirst
      obtain rfl := (hattempt p List.mem_cons_self hread).1 rfl
      have hstay : w.on s = (.ok none, s) := hfirst.trans (congrArg (Prod.mk _) TokenStream.moveTo_rest)
      exact (on_bind_of_ok hstay).trans hrest
    · rw [hread] at hfirst
      exact on_bind_of_ok hfirst

theorem runs_statement : Runs nesting statement (Parsing.statement nesting).read :=
  runs_firstOf runs_statementWalks (statementReaders_attempt nesting)

/-! ### Batches -/

theorem isDone_iff : s.isDone = true ↔ s.rest = [] := by
  rw [TokenStream.isDone, TokenStream.rest, List.drop_eq_nil_iff, decide_eq_true_iff]

theorem get_bind (k : TokenStream → Walk α) : (get >>= k).on s = (k s).on s :=
  rfl

theorem moveTo_rest_of_eq {rest : List Token} (h : s.rest = rest) : s.moveTo rest = s :=
  h ▸ TokenStream.moveTo_rest

theorem rest_suffix_readBatch (tokens : List Token) : (readBatch nesting tokens).rest <:+ tokens := by
  fun_induction readBatch nesting tokens with
  | case1 => exact List.suffix_refl _
  | case2 => exact List.suffix_refl _
  | case3 t tail x hstatement => exact List.nil_suffix
  | case4 t tail x u rest hstatement _ batch ih =>
    exact ih.trans ((List.suffix_cons u rest).trans ((Parsing.statement nesting).progresses hstatement).1)
  | case5 t tail x u rest hstatement => exact ((Parsing.statement nesting).progresses hstatement).1

/-- What a batch comes to behind statements that have been read before. -/
def batchOn (before : List Statement) (s : TokenStream) (batch : BatchReading) :
    Except ParseError (List Statement) × TokenStream :=
  match batch.failure with
  | some f => (.error (f.toParseError s.tokens), s.moveTo batch.rest)
  | none => (.ok (before ++ batch.statements), s.moveTo batch.rest)

theorem batchOn_of_rest_eq_nil (hrest : s.rest = []) (before : List Statement) :
    batchOn before s (readBatch s.nesting s.rest) = (.ok before, s) := by
  rw [hrest, readBatch, batchOn, List.append_nil]
  exact congrArg (Prod.mk _) (moveTo_rest_of_eq hrest)

/-- One more statement has been read before. -/
theorem batchOn_moveTo {rest : List Token} (hrest : rest <:+ s.rest) {batch : BatchReading}
    (hbatch : batch.rest <:+ rest) (before : List Statement) (x : Statement) :
    batchOn (before ++ [x]) (s.moveTo rest) batch =
      batchOn before s { batch with statements := x :: batch.statements } := by
  rw [batchOn, batchOn, TokenStream.moveTo_moveTo hrest hbatch, List.append_assoc]
  rfl

/-- As many rounds as there are tokens are enough. -/
theorem statementRounds_on (bound : Nat) (before : List Statement) (s : TokenStream) (hbound : s.rest.length ≤ bound) :
    (statementRounds bound before).on s = batchOn before s (readBatch s.nesting s.rest) := by
  induction bound generalizing before s with
  | zero => exact (batchOn_of_rest_eq_nil (List.length_eq_zero_iff.1 (Nat.le_zero.1 hbound)) before).symm
  | succ bound ih =>
    rw [statementRounds, get_bind]
    cases hrest : s.rest with
    | nil =>
      rw [if_pos (isDone_iff.2 hrest), ← hrest, batchOn_of_rest_eq_nil hrest]
      rfl
    | cons t tokens =>
      rw [if_neg (by simp [isDone_iff, hrest])]
      have hstatement := runs_statement s rfl
      rw [TokenStream.run, hrest] at hstatement
      rcases hread : (Parsing.statement s.nesting).read (t :: tokens) with failure | ⟨x, _ | ⟨u, rest⟩⟩
      · rw [hread] at hstatement
        rw [readBatch_of_error hread, on_bind_of_error hstatement]
        exact congrArg (Prod.mk _) (moveTo_rest_of_eq hrest).symm
      · rw [hread] at hstatement
        have hnil : (s.moveTo []).rest = [] := TokenStream.rest_moveTo List.nil_suffix
        rw [readBatch_of_last hread, on_bind_of_ok hstatement, get_bind, if_pos (isDone_iff.2 hnil)]
        rfl
      · rw [hread] at hstatement
        obtain ⟨hfront, hlt⟩ := (Parsing.statement s.nesting).progresses hread
        rw [← hrest] at hfront hlt
        have hnext : (s.moveTo (u :: rest)).rest = u :: rest := TokenStream.rest_moveTo hfront
        rw [on_bind_of_ok hstatement, get_bind, if_neg (by simp [isDone_iff, hnext])]
        by_cases hu : u.kind = .symbol .semicolon
        · have htail : rest <:+ s.rest := (List.suffix_cons u rest).trans hfront
          have hafter : (s.moveTo rest).rest = rest := TokenStream.rest_moveTo htail
          have hmoved : (expect (· = .symbol .semicolon) .statementEnd).on (s.moveTo (u :: rest)) =
              (.ok u, (s.moveTo (u :: rest)).moveTo rest) :=
            on_expect_of_accepted hnext (by simpa using hu) .statementEnd
          rw [TokenStream.moveTo_moveTo hfront (List.suffix_cons u rest)] at hmoved
          have hshorter : (s.moveTo rest).rest.length ≤ bound := by
            rw [List.length_cons] at hlt
            rw [hafter]
            omega
          rw [readBatch_of_semicolon hread hu, on_bind_of_ok hmoved, ih _ _ hshorter, hafter]
          exact batchOn_moveTo htail (rest_suffix_readBatch rest) before x
        · have hstay : (expect (· = .symbol .semicolon) .statementEnd).on (s.moveTo (u :: rest)) = _ :=
            on_expect_of_refused (by simpa [hnext] using hu) .statementEnd
          rw [readBatch_of_other hread hu, on_bind_of_error hstay, hnext]
          rfl

/-- On a stream, all walks do what the readers do. -/
theorem on_statements (s : TokenStream) : statements.on s = s.statements :=
  (statementRounds_on s.rest.length [] s (Nat.le_refl _)).trans rfl

end Walk

end SqlShell
