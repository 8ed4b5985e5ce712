import SqlShell.Toml.Value
/-!
# Reading settings documents

A document is read line by line, though a text in triple quotes or an array may take several lines. A line holds a
value under a key, a table header, or nothing; all may be followed by a comment.
-/

namespace SqlShell.Toml

/-- The rest of a line must be blank or a comment; gives what follows the line. -/
def endLine? (text : List Char) : Option (List Char) :=
  match skipSpace text with
  | [] => some []
  | '\n' :: rest => some rest
  | '\r' :: '\n' :: rest => some rest
  | '#' :: rest =>
    let comment := rest.takeWhile (!isControl ·)
    match rest.drop comment.length with
    | [] => some []
    | '\n' :: after => some after
    | '\r' :: '\n' :: after => some after
    | _ => none
  | _ => none

/-- One line of a document inside the table of a path: the document and the path after it, and the text behind
it. -/
def readLine? (document : Document) (table : Path) (text : List Char) : Option (Document × Path × List Char) :=
  match skipSpace text with
  | '[' :: '[' :: rest => do
    let (path, rest) ← readPath? nestingLimit rest
    match rest with
    | ']' :: ']' :: rest => return (← document.addElement? path, path, ← endLine? rest)
    | _ => none
  | '[' :: rest => do
    let (path, rest) ← readPath? nestingLimit rest
    match rest with
    | ']' :: rest => return (← document.addHeader? path, path, ← endLine? rest)
    | _ => none
  | [] | '\n' :: _ | '\r' :: _ | '#' :: _ => do return (document, table, ← endLine? text)
  | _ => do
    let (path, rest) ← readPath? nestingLimit text
    let (value, rest) ← readValue? nestingLimit (skipSpace (← skip? '=' rest))
    return (← document.addValue? table path value, table, ← endLine? rest)

/-- The lines of a document from some line on. -/
def readLines? (document : Document) (table : Path) (text : List Char) : Option Document :=
  if text.isEmpty then some document
  else
    match readLine? document table text with
    | none => none
    | some (document, table, rest) =>
      if rest.length < text.length then readLines? document table rest else none
termination_by text.length

/-- Reads a document. It may start with a byte order mark. -/
def read? (text : String) : Option Document :=
  let characters := text.toList
  readLines? .empty [] (if characters.head? = some '\ufeff' then characters.drop 1 else characters)

end SqlShell.Toml
