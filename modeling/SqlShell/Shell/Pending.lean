import SqlShell.Text.Blank
/-!
# Collecting statements

Lines of input are collected until one ends with a semicolon. A semicolon inside quotes or behind a comment sign
does not count, and quotes may span lines: a pending batch remembers the delimiter of the quotes that are open at
the end of a line. A doubled delimiter closes the quotes and opens them again.
-/

namespace SqlShell

/-- The lines collected so far, each with a line feed, and the delimiter of the quotes that are open. -/
structure PendingBatch where
  text : String
  quote : Option Char
deriving DecidableEq, Inhabited

namespace PendingBatch

/-- A batch without lines. -/
def empty : PendingBatch :=
  ⟨"", none⟩

/-- No lines have been collected. -/
def isEmpty (batch : PendingBatch) : Bool :=
  batch.text.isEmpty

/-- The delimiters of text literals and quoted names. -/
def isDelimiter (c : Char) : Bool :=
  c == '\'' || c == '"' || c == '\x60'

/-- Goes through a line: the quotes that are open behind it, and its last character that is neither blank nor in a
comment, given those of the line so far. -/
def scan (quote last : Option Char) : List Char → Option Char × Option Char
  | [] => (quote, last)
  | c :: rest =>
    match quote with
    | some delimiter => scan (if c = delimiter then none else quote) (some c) rest
    | none =>
      if isDelimiter c then scan (some c) (some c) rest
      else if c = '-' ∧ rest.head? = some '-' then (none, last)
      else if Text.isBlank c then scan none last rest
      else scan none (some c) rest

/-- Adds a line, and hands out all lines if it ends a statement. Blank lines in front of the first statement are
dropped. -/
def push (batch : PendingBatch) (line : String) : Option String × PendingBatch :=
  if batch.isEmpty ∧ line.toList.all Text.isBlank then (none, batch)
  else
    let text := batch.text ++ line ++ "\n"
    match scan batch.quote none line.toList with
    | (none, some ';') => (some text, empty)
    | (quote, _) => (none, ⟨text, quote⟩)

/-- Hands out all lines, whether they end a statement or not. -/
def take (batch : PendingBatch) : String × PendingBatch :=
  (batch.text, empty)

/-- Drops all lines. -/
def clear (_batch : PendingBatch) : PendingBatch :=
  empty

end PendingBatch

end SqlShell
