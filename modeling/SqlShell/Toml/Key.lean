import SqlShell.Toml.Basic
import SqlShell.Toml.Text
/-!
# Keys in settings documents

A key is a word or a text in quotes. Keys with dots between them are a path.
-/

namespace SqlShell.Toml

/-- A blank inside a line. -/
def isSpace (c : Char) : Bool :=
  c == ' ' || c == '\t'

/-- A text without the blanks in front of it. -/
def skipSpace (text : List Char) : List Char :=
  text.dropWhile isSpace

/-- A text without the character that it must start with. -/
def skip? (character : Char) : List Char → Option (List Char)
  | [] => none
  | c :: rest => if c = character then some rest else none

/-- The number of keys that a path may have, and the number of arrays and tables that may stand in each other. -/
def nestingLimit : Nat := 79

/-- A character of a key without quotes. -/
def isKeyChar (c : Char) : Bool :=
  c.isAlphanum || c == '_' || c == '-'

/-- A key without dots: a word, or a text in quotes on one line. -/
def readKey? (text : List Char) : Option (String × List Char) :=
  match text with
  | '"' :: rest => (readBasic rest).map fun (key, after) => (String.ofList key, after)
  | '\'' :: rest => (readLiteral rest).map fun (key, after) => (String.ofList key, after)
  | _ =>
    let key := text.takeWhile isKeyChar
    if key.isEmpty then none else some (String.ofList key, text.dropWhile isKeyChar)

/-- At most so many keys with dots between them, and the text behind them and their blanks. -/
def readPath? : Nat → List Char → Option (Path × List Char)
  | 0, _ => none
  | limit + 1, text => do
    let (key, rest) ← readKey? (skipSpace text)
    match skipSpace rest with
    | '.' :: rest =>
      let (path, rest) ← readPath? limit rest
      return (key :: path, rest)
    | rest => return ([key], rest)

end SqlShell.Toml
