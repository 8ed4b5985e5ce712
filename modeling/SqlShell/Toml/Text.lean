import SqlShell.Report.JsonValue
/-!
# Texts in settings documents

A text is written between double quotes with escapes, or between single quotes as it is; either quotes may be
tripled, and then line feeds may stand between them. A text is put in quotes in which it needs no escapes, if there
are any.
-/

namespace SqlShell.Toml

/-- A control character that must not stand in a document as it is. -/
def isControl (c : Char) : Bool :=
  (c.toNat < 0x20 && c != '\t') || c.toNat == 0x7F

/-- The value of a hexadecimal digit. -/
def hexValue? (c : Char) : Option Nat :=
  if c.isDigit then some (c.toNat - '0'.toNat)
  else if 'a' ≤ c ∧ c ≤ 'f' then some (c.toNat - 'a'.toNat + 10)
  else if 'A' ≤ c ∧ c ≤ 'F' then some (c.toNat - 'A'.toNat + 10)
  else none

/-- The character whose code point is spelled by hexadecimal digits. -/
def ofHex? (digits : List Char) : Option Char := do
  let values ← digits.mapM hexValue?
  let code := values.foldl (fun n d => 16 * n + d) 0
  if code.isValidChar then some (Char.ofNat code) else none

/-- The character that an escape of one letter stands for. -/
def escaped? : Char → Option Char
  | 'b' => some '\x08'
  | 't' => some '\t'
  | 'n' => some '\n'
  | 'f' => some '\x0c'
  | 'r' => some '\r'
  | '"' => some '"'
  | '\\' => some '\\'
  | _ => none

/-- One more character in front of a text that was read. -/
def consTo (c? : Option Char) (read : Option (List Char × List Char)) : Option (List Char × List Char) := do
  let c ← c?
  let (text, rest) ← read
  return (c :: text, rest)

/-- Reads a text in double quotes behind the opening one. -/
def readBasic : List Char → Option (List Char × List Char)
  | [] => none
  | '"' :: rest => some ([], rest)
  | '\\' :: 'u' :: a :: b :: c :: d :: rest => consTo (ofHex? [a, b, c, d]) (readBasic rest)
  | '\\' :: 'U' :: a :: b :: c :: d :: e :: f :: g :: h :: rest =>
    consTo (ofHex? [a, b, c, d, e, f, g, h]) (readBasic rest)
  | '\\' :: c :: rest => consTo (escaped? c) (readBasic rest)
  | c :: rest => if isControl c then none else consTo (some c) (readBasic rest)

/-- Reads a text in single quotes behind the opening one. -/
def readLiteral : List Char → Option (List Char × List Char)
  | [] => none
  | '\'' :: rest => some ([], rest)
  | c :: rest => if isControl c then none else consTo (some c) (readLiteral rest)

/-- What a reader of lines in triple quotes is doing. -/
inductive Spanning where
  | text
  /-- Behind a backslash, blanks up to the end of the line. -/
  | lineEnd
  /-- Behind such a line end, blanks and line feeds up to the next character. -/
  | gap

/-- Reads a text in triple double quotes behind the opening ones. Up to two quotes may stand in front of the
closing ones. -/
def readBasicLines : Spanning → List Char → Option (List Char × List Char)
  | _, [] => none
  | .lineEnd, '\r' :: '\n' :: rest => readBasicLines .gap rest
  | .lineEnd, c :: rest =>
    if c = '\n' then readBasicLines .gap rest
    else if c = ' ' ∨ c = '\t' then readBasicLines .lineEnd rest
    else none
  | .gap, '\r' :: '\n' :: rest => readBasicLines .gap rest
  | .gap, ' ' :: rest | .gap, '\t' :: rest | .gap, '\n' :: rest => readBasicLines .gap rest
  | _, '"' :: '"' :: '"' :: '"' :: '"' :: rest => some (['"', '"'], rest)
  | _, '"' :: '"' :: '"' :: '"' :: rest => some (['"'], rest)
  | _, '"' :: '"' :: '"' :: rest => some ([], rest)
  | _, '\r' :: '\n' :: rest => consTo (some '\n') (readBasicLines .text rest)
  | _, '\\' :: 'u' :: a :: b :: c :: d :: rest => consTo (ofHex? [a, b, c, d]) (readBasicLines .text rest)
  | _, '\\' :: 'U' :: a :: b :: c :: d :: e :: f :: g :: h :: rest =>
    consTo (ofHex? [a, b, c, d, e, f, g, h]) (readBasicLines .text rest)
  | _, '\\' :: '\r' :: '\n' :: rest => readBasicLines .gap rest
  | _, '\\' :: '\n' :: rest => readBasicLines .gap rest
  | _, '\\' :: ' ' :: rest | _, '\\' :: '\t' :: rest => readBasicLines .lineEnd rest
  | _, '\\' :: c :: rest => consTo (escaped? c) (readBasicLines .text rest)
  | _, c :: rest => if isControl c && c != '\n' then none else consTo (some c) (readBasicLines .text rest)

/-- Reads a text in triple single quotes behind the opening ones. -/
def readLiteralLines : List Char → Option (List Char × List Char)
  | [] => none
  | '\'' :: '\'' :: '\'' :: '\'' :: '\'' :: rest => some (['\'', '\''], rest)
  | '\'' :: '\'' :: '\'' :: '\'' :: rest => some (['\''], rest)
  | '\'' :: '\'' :: '\'' :: rest => some ([], rest)
  | '\r' :: '\n' :: rest => consTo (some '\n') (readLiteralLines rest)
  | c :: rest => if isControl c && c != '\n' then none else consTo (some c) (readLiteralLines rest)

/-- Drops a line end. Triple quotes may be followed by one that does not belong to the text. -/
def dropLineEnd : List Char → List Char
  | '\n' :: rest => rest
  | '\r' :: '\n' :: rest => rest
  | text => text

/-- Reads a text in quotes of any kind. -/
def readText? : List Char → Option (List Char × List Char)
  | '"' :: '"' :: '"' :: rest => readBasicLines .text (dropLineEnd rest)
  | '\'' :: '\'' :: '\'' :: rest => readLiteralLines (dropLineEnd rest)
  | '"' :: rest => readBasic rest
  | '\'' :: rest => readLiteral rest
  | _ => none

/-! ### Writing -/

/-- The ways to put a text in quotes. -/
inductive Quotes where
  /-- Double quotes, with escapes. -/
  | basic
  /-- Single quotes, without escapes. -/
  | literal
  /-- Triple double quotes, with escapes; line feeds and up to two double quotes in a row stand as they are. -/
  | basicLines
  /-- Triple single quotes, without escapes. -/
  | literalLines
deriving DecidableEq, Inhabited

namespace Quotes

/-- The characters of the quotes. -/
def delimiter : Quotes → List Char
  | .basic => ['"']
  | .literal => ['\'']
  | .basicLines => ['"', '"', '"']
  | .literalLines => ['\'', '\'', '\'']

/-- The quotes are tripled, and line feeds may stand between them. -/
def isTripled : Quotes → Bool
  | .basic | .literal => false
  | .basicLines | .literalLines => true

end Quotes

/-- The length of the longest run of a character in a text, which continues a run of a given length. -/
def longestRun (character : Char) (run : Nat) : List Char → Nat
  | [] => run
  | c :: rest => if c = character then longestRun character (run + 1) rest else max run (longestRun character 0 rest)

/-- The quotes for a text: the first ones in which it can stand without escapes, and double quotes where there are
none. Triple quotes are last, and control characters apart from tabs and line feeds always need escapes. -/
def quotesFor (text : List Char) : Quotes :=
  let spans := text.contains '\n'
  let hasControls := text.any fun c => isControl c && c != '\n'
  let hasEscapes := text.contains '\\'
  let doubles := longestRun '"' 0 text
  let singles := longestRun '\'' 0 text
  if !hasControls && !hasEscapes && doubles == 0 && !spans then .basic
  else if !hasControls && singles == 0 && !spans then .literal
  else if !hasControls && !hasEscapes && doubles ≤ 2 then .basicLines
  else if !hasControls && singles ≤ 2 then .literalLines
  else if spans then .basicLines
  else .basic

/-- A character between double quotes. -/
def escape (c : Char) : List Char :=
  match c with
  | '\x08' => ['\\', 'b']
  | '\t' => ['\\', 't']
  | '\n' => ['\\', 'n']
  | '\x0c' => ['\\', 'f']
  | '\r' => ['\\', 'r']
  | '"' => ['\\', '"']
  | '\\' => ['\\', '\\']
  | c =>
    if isControl c then ['\\', 'u', '0', '0'] ++ (JsonValue.hexPair c.toNat).map Char.toUpper else [c]

/-- A text between triple double quotes, behind a number of double quotes. No three of them may come together. -/
def escapeLines (quotes : Nat) : List Char → List Char
  | [] => []
  | c :: rest =>
    if c = '"' ∧ quotes < 2 then c :: escapeLines (quotes + 1) rest
    else if c = '\n' then c :: escapeLines 0 rest
    else escape c ++ escapeLines 0 rest

/-- A text between quotes. -/
def between (quotes : Quotes) (text : List Char) : List Char :=
  match quotes with
  | .basic => text.flatMap escape
  | .basicLines => escapeLines 0 text
  | .literal | .literalLines => text

/-- A text in quotes. A text of several lines starts on a line of its own. -/
def write (text : List Char) : List Char :=
  let quotes := quotesFor text
  let start := if quotes.isTripled && text.contains '\n' then ['\n'] else []
  quotes.delimiter ++ start ++ between quotes text ++ quotes.delimiter

end SqlShell.Toml
