import SqlShell.Error
/-!
# Tables

A table is a list of columns and a list of rows. A row fits the columns if it has one cell for each of them and
each cell is of its column's type, or NULL where the column takes NULL. Statements check rows before they store
them.
-/

namespace SqlShell

/-- A column: its name, its type, and whether it takes NULL. -/
structure Column where
  name : String
  type : ColumnType
  nullable : Bool
deriving DecidableEq, Inhabited

/-- Refuses a type that the column cannot hold; no type stands for NULL. -/
def Column.accept (column : Column) : Option ColumnType → Except StatementError Unit
  | none => if column.nullable then .ok () else .error (.nullConstraint column.name)
  | some found =>
    if found = column.type then .ok () else .error (.typeMismatch column.name column.type found)

/-- Columns and the rows under them. -/
structure Table where
  columns : List Column
  rows : List Row
deriving DecidableEq, Inhabited

/-- Refuses a row that does not fit the columns. -/
def acceptRow : List Column → Row → Except StatementError Unit
  | _, [] => .ok ()
  | [], _ :: _ => .error .outOfBounds
  | column :: columns, cell :: row => do
    column.accept cell.type?
    acceptRow columns row

namespace Table

/-- The position of the column of a name. -/
def position? (table : Table) (name : String) : Option Nat :=
  table.columns.findIdx? (·.name = name)

/-- Whether a column takes NULL. A column that does not exist counts as one that does. -/
def takesNull (table : Table) (index : Nat) : Bool :=
  (table.columns[index]?.map (·.nullable)).getD true

end Table

end SqlShell
