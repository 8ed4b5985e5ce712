import SqlShell.Proofs.Execution.Steps
import SqlShell.Proofs.Parsing.Dispatch
/-!
# Well-formed catalogs

A table is well formed if it has a column, its columns have distinct names, and each of its rows fits the columns.
Names, types and NULL flags need no clause of their own: they are kept together in one list of columns, so they are
equally many (`Table.WellFormed.equally_many`). Every statement that a text can hold keeps all tables well formed, so
every catalog that texts lead to from the empty one is well formed.

Only CREATE TABLE makes columns, and there the parser is needed: the executor itself would make a table without
columns, but no text holds a definition of one.
-/

namespace SqlShell

/-- There are columns, under distinct names, and every row has one cell for each of them that the column holds. -/
structure Table.WellFormed (table : Table) : Prop where
  columns_ne_nil : table.columns ≠ []
  names_nodup : (table.columns.map (·.name)).Nodup
  rows_fit : ∀ row ∈ table.rows, List.Forall₂ Column.Holds table.columns row

/-- A CREATE TABLE that defines a column, or another statement. -/
def Statement.DefinesColumns : Statement → Prop
  | .create s => s.columns ≠ []
  | _ => True

theorem definesColumns_of_parse {source : String} {statements : List Statement}
    (hparse : parse source = .ok statements) : ∀ s ∈ statements, s.DefinesColumns := by
  refine Parsing.mem_of_parse (fun tokens s rest h => ?_) hparse
  obtain ⟨t, tail, body, rfl, hbody, h⟩ := Parsing.statement_read_eq_ok.1 h
  match s with
  | .drop _ | .insert _ | .select _ | .delete _ | .update _ => trivial
  | .create s =>
    unfold Parsing.bodyOf? at hbody
    split at hbody
    case h_5 =>
      obtain rfl := Option.some.inj hbody
      obtain ⟨create, hcreate, heq⟩ := Reader.map_eq_ok.1 h
      obtain rfl := Statement.create.inj heq
      exact Parsing.readCreateTable_columns_ne_nil hcreate
    case h_7 => simp at hbody
    all_goals
      obtain rfl := Option.some.inj hbody
      obtain ⟨_, -, heq⟩ := Reader.map_eq_ok.1 h
      simp at heq

namespace Table.WellFormed

variable {table : Table}

theorem length_row (h : table.WellFormed) {row : Row} (hrow : row ∈ table.rows) :
    row.length = table.columns.length :=
  (h.rows_fit row hrow).length_eq.symm

/-- There are as many types and NULL flags as names, and as many cells in each row. -/
theorem equally_many (h : table.WellFormed) :
    let names := table.columns.map (·.name)
    (table.columns.map (·.type)).length = names.length ∧
      (table.columns.map (·.nullable)).length = names.length ∧ ∀ row ∈ table.rows, row.length = names.length := by
  intro names
  have hnames : names.length = table.columns.length := List.length_map _
  refine ⟨?_, ?_, fun row hrow => ?_⟩
  · rw [hnames, List.length_map]
  · rw [hnames, List.length_map]
  · rw [hnames, h.length_row hrow]

/-- A table whose new rows fit is well formed. -/
theorem withRows (h : table.WellFormed) {rows : List Row}
    (hrows : ∀ row ∈ rows, List.Forall₂ Column.Holds table.columns row) :
    Table.WellFormed { table with rows } :=
  ⟨h.columns_ne_nil, h.names_nodup, hrows⟩

theorem ofDefinitions {definitions : List ColumnDefinition} {columns : List Column} (hne : definitions ≠ [])
    (hadd : addColumns [] definitions = .ok columns) : Table.WellFormed ⟨columns, []⟩ := by
  obtain ⟨added, hmakes, heq, hnodup⟩ := (addColumns_eq_ok (by simp)).1 hadd
  obtain rfl : columns = added := heq
  refine ⟨?_, hnodup, by simp⟩
  rintro rfl
  exact hne (List.forall₂_nil_right_iff.1 hmakes)

theorem appendRows (h : table.WellFormed) {values : List (List Expression)} {rows : List Row}
    (hrows : List.Forall₂ (fun values row => table.newRow values = .ok row) values rows) :
    Table.WellFormed { table with rows := table.rows ++ rows } := by
  refine h.withRows fun row hrow => ?_
  rcases List.mem_append.1 hrow with hold | hnew
  · exact h.rows_fit row hold
  · obtain ⟨v, -, hv⟩ := exists_of_forall₂_of_mem hrows hnew
    exact (Table.newRow_eq_ok.1 hv).2.2

theorem filterRows (h : table.WellFormed) {test : Row → Except StatementError Bool} {kept : List Row}
    (hkept : SqlShell.filterRows test table.rows = .ok kept) :
    Table.WellFormed { table with rows := kept } :=
  h.withRows fun row hrow => h.rows_fit row (mem_of_filterRows hkept row hrow)

/-- An assignment keeps the length of a row, and the row is checked again afterwards. -/
theorem updatedRow_fits (h : table.WellFormed) {condition : Option BoundExpression} {targets : List Table.Target}
    {row : Row} {new : Option Row} (hrow : row ∈ table.rows)
    (hnew : table.updatedRow? condition targets row = .ok new) :
    List.Forall₂ Column.Holds table.columns (new.getD row) := by
  have hfits := h.rows_fit row hrow
  rcases Table.updatedRow?_eq_ok.1 hnew with ⟨-, rfl⟩ | ⟨-, updated, hassign, haccept, rfl⟩
  · exact hfits
  · have hlength : updated.length = table.columns.length := by
      rw [Table.length_assign hassign, h.length_row hrow]
    exact (acceptRow_eq_ok hlength).1 haccept

theorem updateRows (h : table.WellFormed) {condition : Option BoundExpression} {targets : List Table.Target}
    {updated : List (Option Row)}
    (hupdated : List.Forall₂ (fun row new => table.updatedRow? condition targets row = .ok new) table.rows updated) :
    Table.WellFormed { table with rows := table.rows.zipWith (fun row new => new.getD row) updated } := by
  refine h.withRows fun row hrow => ?_
  obtain ⟨i, hi, rfl⟩ := List.mem_iff_getElem.1 hrow
  rw [List.length_zipWith] at hi
  rw [List.getElem_zipWith]
  exact h.updatedRow_fits (List.getElem_mem _) (hupdated.get (by omega) (by omega))

end Table.WellFormed

namespace Catalog

/-- All tables are well formed. -/
def WellFormed (catalog : Catalog) : Prop :=
  ∀ entry ∈ catalog.entries, entry.2.WellFormed

namespace WellFormed

variable {catalog : Catalog}

theorem empty : Catalog.empty.WellFormed := by
  intro entry hentry
  simp [Catalog.empty] at hentry

theorem table (h : catalog.WellFormed) {name : String} {table : Table} (htable : catalog.table? name = some table) :
    table.WellFormed :=
  h _ (mem_of_table? htable)

theorem put (h : catalog.WellFormed) (name : String) {table : Table} (htable : table.WellFormed) :
    (catalog.put name table).WellFormed := by
  intro entry hentry
  rcases mem_putEntry hentry with rfl | hold
  · exact htable
  · exact h entry hold

theorem erase (h : catalog.WellFormed) (name : String) : (catalog.erase name).WellFormed :=
  fun entry hentry => h entry (List.mem_filter.1 hentry).1

/-- A statement that succeeds leaves all tables well formed. -/
theorem execute (h : catalog.WellFormed) {s : Statement} (hs : s.DefinesColumns) {outcome : Outcome}
    {after : Catalog} (hexecute : catalog.execute s = .ok (outcome, after)) : after.WellFormed := by
  cases s with
  | create s =>
    obtain ⟨-, columns, hadd, heq⟩ := createTable_eq_ok.1 hexecute
    obtain ⟨-, rfl⟩ := Prod.mk.inj heq
    exact h.put _ (.ofDefinitions hs hadd)
  | drop s =>
    obtain ⟨-, heq⟩ := dropTable_eq_ok.1 hexecute
    obtain ⟨-, rfl⟩ := Prod.mk.inj heq
    exact h.erase _
  | insert s =>
    obtain ⟨table, rows, htable, hrows, heq⟩ := insert_eq_ok.1 hexecute
    obtain ⟨-, rfl⟩ := Prod.mk.inj heq
    exact h.put _ ((h.table htable).appendRows hrows)
  | select s =>
    obtain ⟨result, -, heq⟩ := except_bind_eq_ok.1 hexecute
    obtain ⟨-, rfl⟩ := Prod.mk.inj (except_pure_eq_ok.1 heq)
    exact h
  | delete s =>
    obtain ⟨table, condition, kept, htable, -, hkept, heq⟩ := delete_eq_ok.1 hexecute
    obtain ⟨-, rfl⟩ := Prod.mk.inj heq
    exact h.put _ ((h.table htable).filterRows hkept)
  | update s =>
    obtain ⟨table, targets, condition, updated, htable, -, -, hupdated, heq⟩ := update_eq_ok.1 hexecute
    obtain ⟨-, rfl⟩ := Prod.mk.inj heq
    exact h.put _ ((h.table htable).updateRows hupdated)

theorem step (h : catalog.WellFormed) {s : Statement} (hs : s.DefinesColumns) : (catalog.step s).2.WellFormed := by
  rw [Catalog.step]
  split
  · next outcome after hexecute => exact h.execute hs hexecute
  · exact h

theorem run (h : catalog.WellFormed) {statements : List Statement} (hs : ∀ s ∈ statements, s.DefinesColumns) :
    (catalog.run statements).2.WellFormed := by
  induction statements generalizing catalog with
  | nil => exact h
  | cons s statements ih =>
    have hnext : (catalog.step s).2.WellFormed := h.step (hs s List.mem_cons_self)
    exact ih hnext fun s' hs' => hs s' (List.mem_cons_of_mem s hs')

end WellFormed

/-! ### Runs from the empty catalog -/

/-- The catalog after texts that are executed one after another. -/
def afterBatches (catalog : Catalog) (sources : List String) : Catalog :=
  sources.foldl (fun catalog source => (catalog.executeBatch source).2) catalog

/-- The catalog after the first statements of a text. A text that cannot be parsed has none. -/
def afterStatements (catalog : Catalog) (source : String) (count : Nat) : Catalog :=
  match parse source with
  | .error _ => catalog
  | .ok statements => (catalog.run (statements.take count)).2

theorem WellFormed.executeBatch {catalog : Catalog} (h : catalog.WellFormed) (source : String) :
    (catalog.executeBatch source).2.WellFormed := by
  rw [Catalog.executeBatch]
  split
  · exact h
  · next statements hparse => exact h.run (definesColumns_of_parse hparse)

theorem WellFormed.afterBatches {catalog : Catalog} (h : catalog.WellFormed) (sources : List String) :
    (catalog.afterBatches sources).WellFormed := by
  induction sources generalizing catalog with
  | nil => exact h
  | cons source sources ih => exact ih (h.executeBatch source)

theorem WellFormed.afterStatements {catalog : Catalog} (h : catalog.WellFormed) (source : String) (count : Nat) :
    (catalog.afterStatements source count).WellFormed := by
  rw [Catalog.afterStatements]
  split
  · exact h
  · next statements hparse =>
    exact h.run fun s hs => definesColumns_of_parse hparse s (List.mem_of_mem_take hs)

/-- The catalogs that texts lead to from the empty one, where any number of the first statements of each text may have
been executed. -/
inductive Reached : Catalog → Prop
  | empty : Reached .empty
  | afterStatements {catalog : Catalog} (h : Reached catalog) (source : String) (count : Nat) :
      Reached (catalog.afterStatements source count)

theorem Reached.wellFormed {catalog : Catalog} (h : catalog.Reached) : catalog.WellFormed := by
  induction h with
  | empty => exact .empty
  | afterStatements _ source count ih => exact ih.afterStatements source count

/-- Whatever texts are executed on the empty catalog, all tables are well formed after each statement. -/
theorem wellFormed_of_run_from_empty (sources : List String) (source : String) (count : Nat) :
    ((empty.afterBatches sources).afterStatements source count).WellFormed :=
  (WellFormed.empty.afterBatches sources).afterStatements source count

end Catalog

end SqlShell
