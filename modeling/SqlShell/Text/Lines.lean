/-!
# Lines

A text is cut into lines at its line feeds. A carriage return in front of a line feed belongs to the line end;
any other carriage return is an ordinary character. A text that ends with a line feed has no empty line after
it, and the empty text has no lines.
-/

namespace SqlShell.Text

/-- The lines of a text that has one more character in front of its first line. -/
def extendFirst (c : Char) : List (List Char) → List (List Char)
  | [] => [[c]]
  | line :: rest => (c :: line) :: rest

/-- The lines of a text, without their line ends. -/
def lines : List Char → List (List Char)
  | [] => []
  | '\n' :: rest => [] :: lines rest
  | '\r' :: '\n' :: rest => [] :: lines rest
  | c :: rest => extendFirst c (lines rest)

end SqlShell.Text
