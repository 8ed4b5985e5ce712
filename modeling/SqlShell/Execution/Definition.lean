import SqlShell.Execution.Outcome
import SqlShell.Statement
/-!
# Making and dropping tables

CREATE TABLE works through its column definitions in order and makes the table only when all of them are sound.
-/

namespace SqlShell

/-- The columns of the definitions, behind the columns that were made before them. No two have the same name. -/
def addColumns (columns : List Column) : List ColumnDefinition → Except StatementError (List Column)
  | [] => .ok columns
  | definition :: definitions =>
    match ColumnType.ofWord? definition.type.kind with
    | none => .error (.unsupportedColumnType definition.type.text)
    | some type =>
      let name := definition.name.text
      if columns.any (·.name = name) then .error (.duplicateColumn name)
      else addColumns (columns ++ [⟨name, type, definition.nullability.takesNull⟩]) definitions

namespace Catalog

/-- Executes a CREATE TABLE. -/
def createTable (catalog : Catalog) (s : CreateTable) : Except StatementError (Outcome × Catalog) := do
  let name := s.name.text
  if (catalog.table? name).isSome then throw (.tableAlreadyExists name)
  let columns ← addColumns [] s.columns
  return (.created, catalog.put name ⟨columns, []⟩)

/-- Executes a DROP TABLE. -/
def dropTable (catalog : Catalog) (s : DropTable) : Except StatementError (Outcome × Catalog) :=
  let name := s.name.text
  if (catalog.table? name).isSome then .ok (.dropped, catalog.erase name)
  else .error (.tableDoesNotExist name)

end Catalog

end SqlShell
