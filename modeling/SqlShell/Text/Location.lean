/-!
# Locations

Where a character stands in a text, as a line and a column that both start at zero. Every location in the
library is a start location moved over the characters before it, so the whole theory of locations is how
`after` composes.
-/

namespace SqlShell

/-- A line and a column, both counted from zero, the column in characters. -/
structure Location where
  line : Nat
  column : Nat
deriving DecidableEq, Inhabited

namespace Location

/-- The location of the first character of a text. -/
def start : Location := ⟨0, 0⟩

/-- The location after one character: a line feed starts a new line. -/
def next (l : Location) (c : Char) : Location :=
  if c = '\n' then ⟨l.line + 1, 0⟩ else ⟨l.line, l.column + 1⟩

/-- The location after a text that starts at `l`. -/
def after (l : Location) (text : List Char) : Location :=
  text.foldl next l

@[simp] theorem after_nil (l : Location) : l.after [] = l := rfl

@[simp] theorem after_cons (l : Location) (c : Char) (text : List Char) :
    l.after (c :: text) = (l.next c).after text := rfl

@[simp] theorem after_append (l : Location) (first second : List Char) :
    l.after (first ++ second) = (l.after first).after second :=
  List.foldl_append

/-- How messages name a location. -/
def message (l : Location) : String :=
  s!"line {l.line}, column {l.column}"

end Location

end SqlShell
