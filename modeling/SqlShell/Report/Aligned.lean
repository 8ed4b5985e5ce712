import SqlShell.Execution.Outcome
/-!
# Aligned tables

A result is printed as a line of headings, a rule, and a line for each row. Every column is as wide as its
longest text, in characters, and every text is filled up with spaces to the width of its column. A row shows as
many cells as there are columns for it. A column that is wider than sixteen bits can count cannot be filled up, and
its table is not printed at all.
-/

namespace SqlShell.Report

/-- Widths that leave room for the texts of one more line. -/
def widen : List Nat → List String → List Nat
  | width :: widths, text :: texts => max width text.length :: widen widths texts
  | widths, _ => widths

/-- The widths of the columns of a result. -/
def widths (result : ResultTable) : List Nat :=
  (result.rows.map (·.map Cell.display)).foldl widen (result.headings.map (·.name.length))

/-- A text filled up with spaces. -/
def pad (text : String) (width : Nat) : String :=
  text ++ String.ofList (List.replicate (width - text.length) ' ')

/-- A line of texts in columns. -/
def line (widths : List Nat) (texts : List String) : String :=
  " | ".intercalate (texts.zipWith pad widths)

/-- The rule under the headings. -/
def rule (widths : List Nat) : String :=
  "-+-".intercalate (widths.map fun width => String.ofList (List.replicate width '-'))

/-- The lines of a printed result. -/
def lines (result : ResultTable) : List String :=
  line (widths result) (result.headings.map (·.name)) :: rule (widths result)
    :: result.rows.map fun row => line (widths result) (row.map Cell.display)

/-- A printed result. -/
def aligned (result : ResultTable) : String :=
  String.join ((lines result).map (· ++ "\n"))

/-- The largest width that a text can be filled up to. -/
def maxWidth : Nat := 65535

/-- A printed result, unless it has a column that is too wide. -/
def aligned? (result : ResultTable) : Option String :=
  if (widths result).all (· ≤ maxWidth) then some (aligned result) else none

end SqlShell.Report
