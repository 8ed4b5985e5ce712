import SqlShell.Execution.Outcome
import SqlShell.Execution.Binding
import SqlShell.Statement
/-!
# Changing rows

INSERT, DELETE and UPDATE work out all the rows that a table is to have before they change it, so that a
statement that fails changes nothing.
-/

namespace SqlShell

/-- The table that a statement names. -/
def Catalog.find (catalog : Catalog) (name : String) : Except StatementError Table :=
  match catalog.table? name with
  | none => .error (.tableDoesNotExist name)
  | some table => .ok table

/-- The rows for which a test holds. -/
def filterRows (test : Row → Except StatementError Bool) : List Row → Except StatementError (List Row)
  | [] => .ok []
  | row :: rows => do
    let kept ← test row
    let rest ← filterRows test rows
    return if kept then row :: rest else rest

namespace Table

/-- The row that a list of values stands for, if it fits the table. -/
def newRow (table : Table) (values : List Expression) : Except StatementError Row := do
  let expected := table.columns.length
  let found := values.length
  if found < expected then throw (.notEnoughValues expected found)
  if found > expected then throw (.tooManyValues expected found)
  let row ← values.mapM fun value => do (← BoundExpression.ofExpression none value).evaluate []
  acceptRow table.columns row
  return row

/-- An assignment to a column: the column's position and the value that it is to have. -/
abbrev Target := Nat × BoundExpression

/-- Binds assignments, behind the positions that have been assigned before. No column is assigned twice. -/
def bindAssignments (table : Table) (assigned : List Nat) :
    List Assignment → Except StatementError (List Target)
  | [] => .ok []
  | assignment :: assignments => do
    let name := assignment.column.text
    match table.position? name with
    | none => throw (.columnDoesNotExist name)
    | some index =>
      if index ∈ assigned then throw (.duplicateColumn name)
      let value ← BoundExpression.ofExpression (some table) assignment.value
      match table.columns[index]? with
      | none => throw .outOfBounds
      | some column => if value.type.isSome then column.accept value.type
      let rest ← table.bindAssignments (index :: assigned) assignments
      return (index, value) :: rest

/-- The row after assignments whose values are taken from the row `old`. -/
def assign (old : Row) : List Target → Row → Except StatementError Row
  | [], row => .ok row
  | (index, value) :: targets, row => do
    let cell ← value.evaluate old
    if index < row.length then assign old targets (row.set index cell) else .error .outOfBounds

/-- The row that an UPDATE makes of a row, or none where the condition leaves the row alone. -/
def updatedRow? (table : Table) (condition : Option BoundExpression) (targets : List Target) (row : Row) :
    Except StatementError (Option Row) := do
  if ← BoundExpression.admits condition row then
    let updated ← assign row targets row
    acceptRow table.columns updated
    return some updated
  else return none

end Table

namespace Catalog

/-- Executes an INSERT. -/
def insert (catalog : Catalog) (s : Insert) : Except StatementError (Outcome × Catalog) := do
  let name := s.table.text
  let table ← catalog.find name
  let rows ← s.rows.mapM table.newRow
  return (.inserted rows.length, catalog.put name { table with rows := table.rows ++ rows })

/-- Executes a DELETE. -/
def delete (catalog : Catalog) (s : Delete) : Except StatementError (Outcome × Catalog) := do
  let name := s.table.text
  let table ← catalog.find name
  let condition ← BoundExpression.ofCondition table s.condition
  let kept ← filterRows (fun row => do return !(← BoundExpression.admits condition row)) table.rows
  return (.deleted (table.rows.length - kept.length), catalog.put name { table with rows := kept })

/-- Executes an UPDATE. -/
def update (catalog : Catalog) (s : Update) : Except StatementError (Outcome × Catalog) := do
  let name := s.table.text
  let table ← catalog.find name
  let targets ← table.bindAssignments [] s.assignments
  let condition ← BoundExpression.ofCondition table s.condition
  let updated ← table.rows.mapM (table.updatedRow? condition targets)
  let rows := table.rows.zipWith (fun row new => new.getD row) updated
  return (.updated (updated.countP (·.isSome)), catalog.put name { table with rows })

end Catalog

end SqlShell
