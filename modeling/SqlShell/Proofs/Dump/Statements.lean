import SqlShell.Proofs.Dump.Text
import SqlShell.Proofs.Printing.Statement
/-!
# The statements of a dump

The tokens of a dump are those that the statements one would expect are printed as: a cell as a literal, a column as its
definition, a table as a CREATE TABLE and an INSERT of all its rows. So they are parsed as these statements.
-/

namespace SqlShell.Dump

open Parsing

/-- The literal of a cell, under a minus sign where it is negative. -/
def cellExpression : Cell → Expression
  | .int value =>
    let magnitude : Expression := .term (Token.ofKind (numeralKind value.toInt.natAbs))
    if value.toInt < 0 then .unary [Token.ofKind (.symbol .minus)] magnitude else magnitude
  | .text contents => .term (Token.ofKind (.string contents))
  | .boolean value => .term (Token.ofKind (.boolean value))
  | .null => .term (Token.ofKind (.keyword .null))

def columnDefinition (column : Column) : ColumnDefinition :=
  ⟨Token.ofKind (.identifier column.name), Token.ofKind (.keyword (typeKeyword column.type)),
    if column.nullable then .unspecified else .notNull⟩

def createTable (table : String × Table) : CreateTable :=
  ⟨Token.ofKind (.identifier table.1), table.2.columns.map columnDefinition⟩

def insertRows (table : String × Table) : Insert :=
  ⟨Token.ofKind (.identifier table.1), table.2.rows.map (·.map cellExpression)⟩

/-- What `statements` is read as. -/
def parsed (table : String × Table) : List Statement :=
  if table.2.rows.isEmpty then [.create (createTable table)]
  else [.create (createTable table), .insert (insertRows table)]

/-! ### What the statements are printed as -/

theorem kinds_cellExpression (cell : Cell) : (cellExpression cell).kinds = cellKinds cell := by
  cases cell with
  | int value =>
    by_cases hnegative : value.toInt < 0
    · simp only [cellExpression, cellKinds, hnegative, if_true]
      rfl
    · simp only [cellExpression, cellKinds, hnegative, if_false]
      rfl
  | _ => rfl

theorem kinds_columnDefinition (column : Column) : (columnDefinition column).kinds = columnKinds column := by
  rw [columnKinds, columnDefinition, ColumnDefinition.kinds]
  cases column.nullable <;> rfl

theorem kinds_createTable (table : String × Table) :
    (Statement.create (createTable table)).kinds = createKinds table := by
  simp [Statement.kinds, createTable, createKinds, listKinds, parenthesized, Function.comp_def,
    kinds_columnDefinition, Token.ofKind]

theorem kinds_insertRows (table : String × Table) :
    (Statement.insert (insertRows table)).kinds = insertKinds table := by
  simp [Statement.kinds, insertRows, insertKinds, rowKinds, listKinds, parenthesized, Function.comp_def,
    kinds_cellExpression, Token.ofKind]

theorem map_kinds_parsed (table : String × Table) : (parsed table).map Statement.kinds = statementKinds table := by
  rw [parsed, statementKinds]
  split <;> simp [kinds_createTable, kinds_insertRows]

/-! ### What they are read as -/

theorem printable_cellExpression (nesting : Nat) (cell : Cell) : (cellExpression cell).Printable nesting := by
  have hterm {kind : Token.Kind} (hleaf : IsLeaf kind) (hspellable : kind.IsSpellable) :
      (Expression.term (Token.ofKind kind)).Printable nesting :=
    ⟨.term hleaf hspellable, Nat.zero_le _⟩
  cases cell with
  | int value =>
    have hmagnitude := hterm (.numeral _) (isSpellable_numeralKind value.toInt.natAbs)
    by_cases hnegative : value.toInt < 0
    · simp only [cellExpression, hnegative, if_true]
      refine ⟨.unary (by simp) ?_ hmagnitude.wellFormed, Nat.zero_le _⟩
      simpa [Token.ofKind] using IsSign.minus
    · simp only [cellExpression, hnegative, if_false]
      exact hmagnitude
  | text contents => exact hterm (.string _) trivial
  | boolean value => exact hterm (.boolean _) trivial
  | null => exact hterm .null trivial

theorem printable_createTable {table : String × Table} (hcolumns : table.2.columns ≠ []) :
    (createTable table).Printable := by
  refine ⟨rfl, by simpa [createTable] using hcolumns, ?_⟩
  have hcolumn (column : Column) : (columnDefinition column).Printable := ⟨rfl, rfl⟩
  simpa [createTable] using fun column _ => hcolumn column

theorem printable_insertRows (nesting : Nat) {table : String × Table} (hsome : table.2.rows ≠ [])
    (hrows : ∀ row ∈ table.2.rows, row ≠ []) : (insertRows table).Printable nesting := by
  refine ⟨rfl, by simpa [insertRows] using hsome, by simpa [insertRows] using hrows, ?_⟩
  simpa [insertRows] using fun row _ cell _ => printable_cellExpression nesting cell

theorem printable_parsed (nesting : Nat) {table : String × Table} (hcolumns : table.2.columns ≠ [])
    (hrows : ∀ row ∈ table.2.rows, row ≠ []) : ∀ s ∈ parsed table, s.Printable nesting := by
  have hcreate : (createTable table).Printable := printable_createTable hcolumns
  intro s hs
  rw [parsed] at hs
  split at hs
  · obtain rfl := List.mem_singleton.1 hs
    exact hcreate
  · next hsome =>
    rcases List.mem_pair.1 hs with rfl | rfl
    · exact hcreate
    · exact printable_insertRows nesting (by simpa using hsome) hrows

theorem unplaced_cellExpression (cell : Cell) : (cellExpression cell).unplaced = cellExpression cell := by
  cases cell with
  | int value =>
    by_cases hnegative : value.toInt < 0
    · simp only [cellExpression, hnegative, if_true]
      rfl
    · simp only [cellExpression, hnegative, if_false]
      rfl
  | _ => rfl

theorem unplaced_createTable (table : String × Table) :
    (Statement.create (createTable table)).unplaced = .create (createTable table) := by
  show Statement.create ⟨_, (table.2.columns.map columnDefinition).map _⟩ = _
  rw [List.map_map]
  rfl

theorem unplaced_insertRows (table : String × Table) :
    (Statement.insert (insertRows table)).unplaced = .insert (insertRows table) := by
  have hrow (row : Row) : (row.map cellExpression).map Expression.unplaced = row.map cellExpression := by
    simp [unplaced_cellExpression]
  show Statement.insert ⟨_, (table.2.rows.map (·.map cellExpression)).map (·.map Expression.unplaced)⟩ = _
  simp only [List.map_map, Function.comp_def, hrow]
  rfl

theorem map_unplaced_parsed (table : String × Table) : (parsed table).map Statement.unplaced = parsed table := by
  rw [parsed]
  split <;> simp [unplaced_createTable, unplaced_insertRows]

/-- The kinds of a dump are parsed as its statements. -/
theorem parseKinds_kinds {tables : List (String × Table)}
    (h : ∀ table ∈ tables, table.2.columns ≠ [] ∧ ∀ row ∈ table.2.rows, row ≠ []) :
    parseKinds (kinds tables) = .ok (tables.flatMap parsed) := by
  have hprintable : ∀ s ∈ tables.flatMap parsed, s.Printable nestingLimit := by
    intro s hs
    obtain ⟨table, htable, hs⟩ := List.mem_flatMap.1 hs
    exact printable_parsed nestingLimit (h table htable).1 (h table htable).2 s hs
  have hparse := parseKinds_printed hprintable
  simpa [kinds, List.map_flatMap, map_kinds_parsed, map_unplaced_parsed] using hparse

end SqlShell.Dump
