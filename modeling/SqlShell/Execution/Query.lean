import SqlShell.Execution.Change
/-!
# Selecting rows

A SELECT keeps the rows that satisfy its condition, sorts them by its keys, and computes its items on each.
Rows with equal keys stay in the order of the table.
-/

namespace SqlShell

/-- A result column: its heading and the expression that its cells are the values of. -/
abbrev Projection := Heading × BoundExpression

namespace Table

/-- The result columns of a star: all columns of the table. -/
def starProjections (table : Table) : List Projection :=
  table.columns.zipIdx.map fun (column, index) =>
    (⟨column.name, column.type⟩, BoundExpression.ofColumn index column.type column.name)

/-- The heading of an expression at a position of the result. A bare NULL counts as text. -/
def heading (position : Nat) (bound : BoundExpression) (columnAlias : Option Token) : Heading :=
  let name := match columnAlias, bound.columnName with
    | some token, _ => token.text
    | none, some name => name
    | none, none => s!"col_{position}"
  ⟨name, bound.type.getD .text⟩

/-- The result columns of a select list, the first one at a position of the result. -/
def projections (table : Table) (position : Nat) : List SelectItem → Except StatementError (List Projection)
  | [] => .ok []
  | .star _ :: items => do
    let rest ← table.projections (position + table.columns.length) items
    return table.starProjections ++ rest
  | .expression e columnAlias :: items => do
    let bound ← BoundExpression.ofExpression (some table) e
    let rest ← table.projections (position + 1) items
    return (heading position bound columnAlias, bound) :: rest

end Table

/-- A sort key: the expression to sort by, and whether large values come first. -/
abbrev Key := BoundExpression × Bool

/-- Compares rows by the values of their keys, of which the first that differ decide. -/
def compareKeys : List Bool → Row → Row → Ordering
  | descending :: flags, a :: as, b :: bs =>
    let first := a.compare b
    (if descending then first.swap else first).then (compareKeys flags as bs)
  | _, _, _ => .eq

/-- Sorts rows by their keys and leaves rows with equal keys in order. -/
def sortRows (keys : List Key) (rows : List Row) : Except StatementError (List Row) := do
  let keyed ← rows.mapM fun row => do return (← keys.mapM (·.1.evaluate row), row)
  let sorted := keyed.mergeSort fun a b => (compareKeys (keys.map (·.2)) a.1 b.1).isLE
  return sorted.map (·.2)

/-- Executes a SELECT, which changes nothing. -/
def Catalog.select (catalog : Catalog) (s : Select) : Except StatementError ResultTable := do
  let table ← catalog.find s.table.text
  let projections ← table.projections 0 s.items
  let condition ← BoundExpression.ofCondition table s.condition
  let keys ← s.order.mapM fun key => do
    return (← BoundExpression.ofExpression (some table) key.expression, key.descending)
  let matching ← filterRows (BoundExpression.admits condition) table.rows
  let ordered ← if keys.isEmpty then pure matching else sortRows keys matching
  let rows ← ordered.mapM fun row => projections.mapM (·.2.evaluate row)
  return ⟨projections.map (·.1), rows⟩

end SqlShell
