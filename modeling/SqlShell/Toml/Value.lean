import SqlShell.Toml.Moment
/-!
# Values in settings documents

A value is a text, a truth value, a number, a moment, an array or a table between braces. An array may take several
lines with comments; a table between braces stands on one line, apart from texts and arrays in it.
-/

namespace SqlShell.Toml

/-- A character of a number or a truth value. -/
def isScalarChar (c : Char) : Bool :=
  c.isAlphanum || c == '_' || c == '+' || c == '-' || c == '.'

/-- The value that a word spells. -/
def scalar? (word : List Char) : Option Value :=
  if word = ['t', 'r', 'u', 'e'] then some (.boolean true)
  else if word = ['f', 'a', 'l', 's', 'e'] then some (.boolean false)
  else if isNumber word then some .other
  else none

/-- Reads a value that has no values in it. -/
def readScalar? (text : List Char) : Option (Value × List Char) :=
  match text with
  | '"' :: _ | '\'' :: _ => (readText? text).map fun (value, rest) => (.string (String.ofList value), rest)
  | _ =>
    match readMoment? text with
    | some rest => some (.other, rest)
    | none => (scalar? (text.takeWhile isScalarChar)).map fun value => (value, text.dropWhile isScalarChar)

/-- A text without the blanks, line ends and comments in front of it, or in front of it behind a `#`. A comment that
holds a control character does not end. -/
def skipLines (isComment : Bool) : List Char → List Char
  | [] => []
  | '\r' :: '\n' :: rest => skipLines false rest
  | c :: rest =>
    if c = '\n' then skipLines false rest
    else if isComment then if isControl c then c :: rest else skipLines true rest
    else if isSpace c then skipLines false rest
    else if c = '#' then skipLines true rest
    else c :: rest

/-- Reads the elements of an array behind its opening bracket, with the reader of an element. A comma may stand behind
the last element. -/
def readElements? (readElement? : List Char → Option (Value × List Char)) : Nat → List Char → Option (List Char)
  | 0, _ => none
  | fuel + 1, text =>
    match skipLines false text with
    | ']' :: rest => some rest
    | text => do
      let (_, rest) ← readElement? text
      match skipLines false rest with
      | ']' :: rest => some rest
      | ',' :: rest => readElements? readElement? fuel rest
      | _ => none

/-- Reads keys and values of a table between braces up to its closing brace, with the reader of a value. The document
holds what the table has so far. -/
def readMembers? (readMember? : List Char → Option (Value × List Char)) :
    Nat → Document → List Char → Option (List Char)
  | 0, _, _ => none
  | fuel + 1, members, text => do
    let (path, rest) ← readPath? nestingLimit text
    let (value, rest) ← readMember? (skipSpace (← skip? '=' rest))
    let members ← members.addValue? [] path value
    match skipSpace rest with
    | '}' :: rest => some rest
    | ',' :: rest => readMembers? readMember? fuel members rest
    | _ => none

/-- Reads a table behind its opening brace, with the reader of a value. -/
def readTable? (readMember? : List Char → Option (Value × List Char)) (text : List Char) : Option (List Char) :=
  match skipSpace text with
  | '}' :: rest => some rest
  | _ => readMembers? readMember? text.length .empty text

/-- Reads a value in which at most so many arrays and tables stand in each other. -/
def readValue? : Nat → List Char → Option (Value × List Char)
  | depth, '[' :: rest =>
    match depth with
    | 0 => none
    | depth + 1 => (readElements? (readValue? depth) rest.length rest).map fun rest => (.other, rest)
  | depth, '{' :: rest =>
    match depth with
    | 0 => none
    | depth + 1 => (readTable? (readValue? depth) rest).map fun rest => (.other, rest)
  | _, text => readScalar? text

end SqlShell.Toml
