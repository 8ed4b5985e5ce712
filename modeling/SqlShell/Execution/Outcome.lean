import SqlShell.Catalog
/-!
# Outcomes

What a statement that was executed reports.
-/

namespace SqlShell

/-- The heading of a result column. -/
structure Heading where
  name : String
  type : ColumnType
deriving DecidableEq, Inhabited

/-- The rows of a SELECT under their headings. -/
structure ResultTable where
  headings : List Heading
  rows : List Row
deriving DecidableEq, Inhabited

/-- What a statement did. -/
inductive Outcome where
  | created
  | dropped
  | inserted (count : Nat)
  | selected (result : ResultTable)
  | deleted (count : Nat)
  | updated (count : Nat)
deriving DecidableEq, Inhabited

/-- The outcome in words. -/
def Outcome.tag : Outcome → String
  | .created => "CREATE TABLE"
  | .dropped => "DROP TABLE"
  | .inserted count => s!"INSERT {count}"
  | .selected result => s!"SELECT {result.rows.length}"
  | .deleted count => s!"DELETE {count}"
  | .updated count => s!"UPDATE {count}"

end SqlShell
