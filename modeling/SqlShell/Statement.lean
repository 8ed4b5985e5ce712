import SqlShell.Expression
/-!
# Statements

The six statements, each with the tokens that name its tables and columns.
-/

namespace SqlShell

/-- What a column definition says about NULL. -/
inductive NullClause where
  | notNull
  | null
  /-- Nothing is said, and the column takes NULL. -/
  | unspecified
deriving DecidableEq, Inhabited

/-- Whether the column takes NULL. -/
def NullClause.takesNull : NullClause → Bool
  | .notNull => false
  | .null | .unspecified => true

/-- A column of a table to be made. The type is any word; only some words name types. -/
structure ColumnDefinition where
  name : Token
  type : Token
  nullability : NullClause
deriving DecidableEq, Inhabited

/-- `CREATE TABLE name (columns)` -/
structure CreateTable where
  name : Token
  columns : List ColumnDefinition
deriving DecidableEq, Inhabited

/-- `DROP TABLE name` -/
structure DropTable where
  name : Token
deriving DecidableEq, Inhabited

/-- `INSERT INTO table VALUES (row), …` -/
structure Insert where
  table : Token
  rows : List (List Expression)
deriving DecidableEq, Inhabited

/-- One item of a select list. -/
inductive SelectItem where
  /-- All columns of the table. -/
  | star (token : Token)
  | expression (expression : Expression) (columnAlias : Option Token)
deriving DecidableEq, Inhabited

/-- A key that result rows are sorted by. -/
structure SortKey where
  expression : Expression
  descending : Bool
deriving DecidableEq, Inhabited

/-- `SELECT items FROM table [AS alias] [WHERE condition] [ORDER BY order]` -/
structure Select where
  items : List SelectItem
  table : Token
  tableAlias : Option Token
  condition : Option Expression
  order : List SortKey
deriving DecidableEq, Inhabited

/-- `DELETE FROM table [WHERE condition]` -/
structure Delete where
  table : Token
  condition : Option Expression
deriving DecidableEq, Inhabited

/-- `column = value` in an UPDATE. -/
structure Assignment where
  column : Token
  value : Expression
deriving DecidableEq, Inhabited

/-- `UPDATE table SET assignments [WHERE condition]` -/
structure Update where
  table : Token
  assignments : List Assignment
  condition : Option Expression
deriving DecidableEq, Inhabited

/-- A statement. -/
inductive Statement where
  | create (create : CreateTable)
  | drop (drop : DropTable)
  | insert (insert : Insert)
  | select (select : Select)
  | delete (delete : Delete)
  | update (update : Update)
deriving DecidableEq, Inhabited

/-- The words that a statement starts with. -/
def Statement.label : Statement → String
  | .create _ => "CREATE TABLE"
  | .drop _ => "DROP TABLE"
  | .insert _ => "INSERT"
  | .select _ => "SELECT"
  | .delete _ => "DELETE"
  | .update _ => "UPDATE"

end SqlShell
