import SqlShell.Token.Basic
/-!
# Cells

The values that tables hold, their types, and the order that rows are sorted by. NULL belongs to every type
and comes before all other values.
-/

namespace SqlShell

/-- The types that columns have. -/
inductive ColumnType where
  | int
  | text
  | boolean
deriving DecidableEq, Inhabited

/-- The word for a type. -/
def ColumnType.name : ColumnType → String
  | .int => "int"
  | .text => "text"
  | .boolean => "boolean"

/-- The type that a word names. -/
def ColumnType.ofWord? : Token.Kind → Option ColumnType
  | .keyword .int => some .int
  | .keyword .text => some .text
  | .keyword .boolean => some .boolean
  | _ => none

/-- A value, or NULL. -/
inductive Cell where
  | int (value : Int64)
  | text (value : String)
  | boolean (value : Bool)
  | null
deriving DecidableEq, Inhabited

namespace Cell

/-- The type of a value. NULL has none. -/
def type? : Cell → Option ColumnType
  | .int _ => some .int
  | .text _ => some .text
  | .boolean _ => some .boolean
  | .null => none

/-- A value as it is printed. NULL is printed as nothing. -/
def display : Cell → String
  | .int value => toString value.toInt
  | .text value => value
  | .boolean value => truthSpelling value
  | .null => ""

/-- The place of a value's type among the types. -/
def rank : Cell → Nat
  | .null => 0
  | .boolean _ => 1
  | .int _ => 2
  | .text _ => 3

/-- NULL comes first; values of one type are in their natural order, texts by code point. -/
def compare : Cell → Cell → Ordering
  | .int a, .int b => Ord.compare a.toInt b.toInt
  | .text a, .text b => Ord.compare a b
  | .boolean a, .boolean b => Ord.compare a b
  | a, b => Ord.compare a.rank b.rank

end Cell

/-- A row of a table or of a result. -/
abbrev Row := List Cell

end SqlShell
