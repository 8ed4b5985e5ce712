import SqlShell.Proofs.Dump.Statements
import SqlShell.Proofs.Execution.Relocation
import SqlShell.Proofs.Execution.Tables
import SqlShell.Proofs.Execution.WellFormed
/-!
# Restoring dumps

The statements of a dump make its tables one after another, each under a name that is not in use yet. Executed on the
empty catalog, a dump of all tables of a catalog gives that catalog back. Each value is checked again on its way in:
that it passes is what well-formedness says.
-/

namespace SqlShell

namespace Dump

/-! ### Literals -/

theorem ofNumeral_repr (value : Int64) {negative : Bool} (h : negative = decide (value.toInt < 0)) :
    BoundExpression.ofNumeral value.toInt.natAbs.repr negative = .ok (.ofLiteral (.int value)) := by
  rw [BoundExpression.ofNumeral, Numeral.toInt64_repr, h, Numeral.signed_natAbs]

/-- The minus sign in front of a negative int is part of its literal, so the least int is one too. -/
theorem ofExpression_cellExpression (cell : Cell) :
    BoundExpression.ofExpression none (cellExpression cell) = .ok (.ofLiteral cell) := by
  cases cell with
  | int value =>
    by_cases hnegative : value.toInt < 0
    · simp only [cellExpression, hnegative, if_true]
      show (do (← BoundExpression.ofNumeral value.toInt.natAbs.repr true).underOperators []) = _
      rw [ofNumeral_repr value (decide_eq_true hnegative).symm]
      rfl
    · simp only [cellExpression, hnegative, if_false]
      exact ofNumeral_repr value (decide_eq_false hnegative).symm
  | text contents => rfl
  | boolean value => rfl
  | null => rfl

theorem literal_cellExpression (cell : Cell) : (cellExpression cell).literal = .ok cell := by
  rw [Expression.literal, ofExpression_cellExpression]
  rfl

theorem newRow_map_cellExpression {table : Table} {row : Row} (h : List.Forall₂ Column.Holds table.columns row) :
    table.newRow (row.map cellExpression) = .ok row := by
  refine Table.newRow_eq_ok.2 ⟨by rw [List.length_map, h.length_eq], ?_, h⟩
  rw [List.forall₂_map_left_iff]
  exact List.forall₂_same.2 fun cell _ => literal_cellExpression cell

/-! ### Tables -/

theorem makes_columnDefinition (column : Column) : (columnDefinition column).Makes column := by
  obtain ⟨name, type, nullable⟩ := column
  refine ⟨?_, rfl, ?_⟩
  · cases type <;> rfl
  · cases nullable <;> rfl

theorem addColumns_map_columnDefinition {columns : List Column} (h : (columns.map (·.name)).Nodup) :
    addColumns [] (columns.map columnDefinition) = .ok columns := by
  refine (addColumns_eq_ok (by simp)).2 ⟨columns, ?_, rfl, h⟩
  rw [List.forall₂_map_left_iff]
  exact List.forall₂_same.2 fun column _ => makes_columnDefinition column

variable {catalog : Catalog} {table : String × Table}

theorem step_createTable (hfresh : catalog.table? table.1 = none) (h : table.2.WellFormed) :
    catalog.step (.create (createTable table)) = (.ok .created, catalog.put table.1 ⟨table.2.columns, []⟩) :=
  Catalog.step_of_execute_eq_ok <| Catalog.createTable_eq_ok.2
    ⟨hfresh, table.2.columns, addColumns_map_columnDefinition h.names_nodup, rfl⟩

/-- Rows that fit the columns of a table are put behind those that it has. -/
theorem step_insertRows {made : Table} (hmade : catalog.table? table.1 = some made)
    (hfits : ∀ row ∈ table.2.rows, List.Forall₂ Column.Holds made.columns row) :
    catalog.step (.insert (insertRows table)) =
      (.ok (.inserted table.2.rows.length), catalog.put table.1 ⟨made.columns, made.rows ++ table.2.rows⟩) := by
  have hrows : List.Forall₂ (fun values row => made.newRow values = .ok row) (insertRows table).rows
      table.2.rows := by
    rw [insertRows, List.forall₂_map_left_iff]
    exact List.forall₂_same.2 fun row hrow => newRow_map_cellExpression (hfits row hrow)
  exact Catalog.step_of_execute_eq_ok (Catalog.insert_eq_ok.2 ⟨_, _, hmade, hrows, rfl⟩)

/-- What the statements of a table report. -/
def outcomes (table : String × Table) : List Outcome :=
  if table.2.rows.isEmpty then [.created] else [.created, .inserted table.2.rows.length]

/-- The statements of a table make it. -/
theorem run_parsed (hfresh : catalog.table? table.1 = none) (h : table.2.WellFormed) :
    catalog.run (parsed table) = ((outcomes table).map .ok, catalog.put table.1 table.2) := by
  have hcreate := step_createTable hfresh h
  rw [parsed, outcomes]
  by_cases hempty : table.2.rows.isEmpty = true
  · have hrows : table.2.rows = [] := List.isEmpty_iff.1 hempty
    rw [if_pos hempty, if_pos hempty]
    simp only [Catalog.run, hcreate, ← hrows]
    rfl
  · have hmade : (catalog.put table.1 ⟨table.2.columns, []⟩).table? table.1 = some ⟨table.2.columns, []⟩ :=
      Catalog.table?_put_self
    have hinsert := step_insertRows hmade h.rows_fit
    rw [if_neg hempty, if_neg hempty]
    simp only [Catalog.run, hcreate, hinsert, Catalog.put_put]
    rfl

end Dump

theorem Catalog.run_append (catalog : Catalog) (front behind : List Statement) :
    catalog.run (front ++ behind) =
      ((catalog.run front).1 ++ ((catalog.run front).2.run behind).1, ((catalog.run front).2.run behind).2) := by
  induction front generalizing catalog with
  | nil => rfl
  | cons s front ih => simp only [List.cons_append, run, ih]

namespace Dump

/-! ### Dumps -/

/-- The catalog with more tables. -/
def putAll (catalog : Catalog) (tables : List (String × Table)) : Catalog :=
  tables.foldl (fun catalog table => catalog.put table.1 table.2) catalog

/-- All tables of a dump are made if their names are distinct and not in use. -/
theorem run_flatMap_parsed {catalog : Catalog} {tables : List (String × Table)} (hnodup : (tables.map (·.1)).Nodup)
    (hfresh : ∀ table ∈ tables, catalog.table? table.1 = none) (h : ∀ table ∈ tables, table.2.WellFormed) :
    catalog.run (tables.flatMap parsed) = ((tables.flatMap outcomes).map .ok, putAll catalog tables) := by
  induction tables generalizing catalog with
  | nil => rfl
  | cons table tables ih =>
    obtain ⟨hname, hnames⟩ := List.nodup_cons.1 hnodup
    have hnext : ∀ other ∈ tables, (catalog.put table.1 table.2).table? other.1 = none := by
      intro other hother
      have hne : other.1 ≠ table.1 := fun heq => hname (List.mem_map.2 ⟨other, hother, heq⟩)
      rw [Catalog.table?_put_of_ne hne]
      exact hfresh other (List.mem_cons_of_mem _ hother)
    have htable := run_parsed (hfresh table List.mem_cons_self) (h table List.mem_cons_self)
    have htables := ih hnames hnext fun other hother => h other (List.mem_cons_of_mem _ hother)
    rw [List.flatMap_cons, List.flatMap_cons, List.map_append, Catalog.run_append, htable, htables]
    rfl

theorem table?_putAll {tables : List (String × Table)} (hnodup : (tables.map (·.1)).Nodup) (catalog : Catalog)
    (name : String) : (putAll catalog tables).table? name = (tables.lookup name).or (catalog.table? name) := by
  induction tables generalizing catalog with
  | nil => rfl
  | cons table tables ih =>
    obtain ⟨hname, hnames⟩ := List.nodup_cons.1 hnodup
    have hnext : (putAll catalog (table :: tables)).table? name = _ := ih hnames (catalog.put table.1 table.2)
    rw [hnext, Catalog.lookup_cons, Catalog.table?_put]
    by_cases heq : name = table.1
    · have hnone : tables.lookup name = none := by
        refine List.lookup_eq_none_iff.2 fun other hother => ?_
        rw [bne_iff_ne, heq]
        exact fun hsame => hname (List.mem_map.2 ⟨other, hother, hsame.symm⟩)
      rw [if_pos heq, if_pos heq, hnone]
      rfl
    · rw [if_neg heq, if_neg heq]

/-- All tables of a catalog, put into the empty one in any order, make the same catalog again. -/
theorem putAll_empty {catalog : Catalog} {tables : List (String × Table)} (h : tables.Perm catalog.entries) :
    putAll .empty tables = catalog := by
  have hnodup : (tables.map (·.1)).Nodup := (h.map _).nodup_iff.2 catalog.nodup_names
  refine Catalog.ext_table? fun name => ?_
  rw [table?_putAll hnodup]
  show (tables.lookup name).or none = _
  rw [Option.or_none]
  ext table
  rw [Catalog.lookup_eq_some_iff_mem hnodup, Catalog.table?_eq_some_iff, h.mem_iff]

/-- A dump of all tables of a well-formed catalog, in any order, gives the catalog back. -/
theorem executeBatch_text {catalog : Catalog} (hcatalog : catalog.WellFormed) {tables : List (String × Table)}
    (h : tables.Perm catalog.entries) :
    Catalog.empty.executeBatch (text tables) = (.ok ((tables.flatMap outcomes).map .ok), catalog) := by
  have hwellFormed : ∀ table ∈ tables, table.2.WellFormed := fun table htable => hcatalog table (h.mem_iff.1 htable)
  have hshape : ∀ table ∈ tables, table.2.columns ≠ [] ∧ ∀ row ∈ table.2.rows, row ≠ [] := by
    intro table htable
    refine ⟨(hwellFormed table htable).columns_ne_nil, fun row hrow hnil => ?_⟩
    have hfits := (hwellFormed table htable).rows_fit row hrow
    rw [hnil, List.forall₂_nil_right_iff] at hfits
    exact (hwellFormed table htable).columns_ne_nil hfits
  obtain ⟨found, hfound, hparsed⟩ := parse_of_scans (scans_text tables) (parseKinds_kinds hshape)
  have hnodup : (tables.map (·.1)).Nodup := (h.map _).nodup_iff.2 catalog.nodup_names
  have hrun : Catalog.empty.run found = ((tables.flatMap outcomes).map .ok, catalog) := by
    rw [← Catalog.run_relocate (fun _ => Location.start) Catalog.empty found, ← putAll_empty h,
      ← run_flatMap_parsed hnodup (fun _ _ => rfl) hwellFormed, ← hparsed]
    rfl
  rw [Catalog.executeBatch, hfound]
  simp only [hrun]

end Dump

/-- Whatever texts have been executed on the empty catalog, a dump of the tables that they have led to, executed on the
empty catalog, makes the same catalog again, and no statement of it fails. -/
theorem Catalog.executeBatch_dump_of_run_from_empty (sources : List String) (source : String) (count : Nat)
    {tables : List (String × Table)}
    (h : tables.Perm ((empty.afterBatches sources).afterStatements source count).entries) :
    empty.executeBatch (Dump.text tables) =
      (.ok ((tables.flatMap Dump.outcomes).map .ok), (empty.afterBatches sources).afterStatements source count) :=
  Dump.executeBatch_text ((WellFormed.empty.afterBatches sources).afterStatements source count) h

theorem Catalog.executeBatch_dump_of_two_tables :
    let source := "CREATE TABLE \"a\"\"; --\" (\"\" INT NOT NULL, \"it's\" TEXT, b BOOLEAN); CREATE TABLE t (x INT);
      INSERT INTO \"a\"\"; --\" VALUES (-9223372036854775808, 'it''s; --', NULL), (7, NULL, true)"
    let catalog := (empty.afterBatches [source]).afterStatements "" 0
    catalog.entries.length = 2 ∧ empty.executeBatch (Dump.text catalog.entries.reverse) =
      (.ok ((catalog.entries.reverse.flatMap Dump.outcomes).map .ok), catalog) :=
  ⟨by decide +kernel, executeBatch_dump_of_run_from_empty _ _ _ (List.reverse_perm _)⟩

end SqlShell
