import SqlShell.Text.Blank
import SqlShell.Text.Letter
import SqlShell.Text.Lines
import SqlShell.Text.Number
/-!
# Environments

The variables that a program is given, and the files that more of them can be read from. A variable stands in an
environment as its name and its value with an equals sign between them. Such a file has a variable on each line; values may be quoted, and a dollar sign stands for the value of another variable. A file
never changes a variable that is already there, and the first line that cannot be read ends it.
-/

namespace SqlShell

/-- Variables and their values. Of two values of one variable the first counts. -/
structure Environment where
  bindings : List (String × String)
deriving DecidableEq, Inhabited

namespace Environment

/-- The value of a variable: what stands behind the name and an equals sign. So a name that holds an equals sign
itself leads into the value of another variable. No variable has the empty name. -/
def value? (environment : Environment) (name : String) : Option String :=
  if name.isEmpty then none
  else environment.bindings.findSome? fun (known, value) =>
    ((name ++ "=").toList.isPrefixOf? (known ++ "=" ++ value).toList).map String.ofList

/-- The environment with one more variable, unless it is already there. -/
def define (environment : Environment) (name value : String) : Environment :=
  if (environment.value? name).isSome then environment
  else ⟨environment.bindings ++ [(name, value)]⟩

/-! ### Lines -/

/-- Where a line stands: a line end inside quotes does not end a definition. -/
inductive LineState where
  | plain
  /-- Behind a blank, where a comment may start. -/
  | blank
  | escaped
  | single
  | singleEscaped
  | double
  | doubleEscaped
deriving DecidableEq

/-- The state behind one more character. -/
def LineState.next (state : LineState) (c : Char) : LineState :=
  match state with
  | .plain | .blank =>
    match c with
    | '\\' => .escaped
    | '"' => .double
    | '\'' => .single
    | c => if state = .plain ∧ Text.isBlank c ∧ c ≠ '\n' ∧ c ≠ '\r' then .blank else .plain
  | .escaped => .plain
  | .double => match c with
    | '\\' => .doubleEscaped
    | '"' => .plain
    | _ => .double
  | .doubleEscaped => .double
  | .single => match c with
    | '\\' => .singleEscaped
    | '\'' => .plain
    | _ => .single
  | .singleEscaped => .single

/-- Goes through a line: the state behind it, its characters up to a comment, and whether there is a comment. -/
def scanLine (state : LineState) : List Char → LineState × List Char × Bool
  | [] => (state, [], false)
  | c :: rest =>
    if state = .blank ∧ c = '#' then (.plain, [], true)
    else
      let (last, scanned, comment) := scanLine (state.next c) rest
      (last, c :: scanned, comment)

/-- The lines of a text, each with its line feed. -/
def physicalLines : List Char → List (List Char)
  | [] => []
  | c :: rest => if c = '\n' then [c] :: physicalLines rest else Text.extendFirst c (physicalLines rest)

/-- The lines that belong together, given all lines of a text and the characters of those that have already
begun one. Quotes may go on over line ends; where they are never closed, the last line is missing. -/
def logicalLines (begun : List Char) (state : LineState) : List (List Char) → List (Option (List Char))
  | [] => if state = .plain then [] else [none]
  | line :: lines =>
    let text := begun ++ line
    if (Text.trimStart text).head? = some '#' then logicalLines [] .plain lines
    else
      match scanLine state line with
      | (_, scanned, true) => some (begun ++ scanned) :: logicalLines [] .plain lines
      | (.plain, _, false) => some text :: logicalLines [] .plain lines
      | (last, _, false) => logicalLines text last lines

/-! ### Values -/

/-- What the reader of a value is doing. The name of a variable that is being read is kept last character
first. -/
inductive ValueState where
  | plain
  | escaped
  | single
  /-- Behind a dollar sign. -/
  | name (read : List Char)
  /-- Behind a dollar sign and an opening brace. -/
  | braced (read : List Char)
  /-- Behind the end of the value. -/
  | ending

/-- What a variable in a value stands for. Variables of the environment come first, then those of the lines
above. -/
def substitute (environment : Environment) (above : List (String × String)) (name : List Char) : List Char :=
  let name := String.ofList name.reverse
  ((environment.value? name).getD ((above.lookup name).getD "")).toList

/-- Reads a value from some state on, inside double quotes or not. -/
def readValue? (lookup : List Char → List Char) (quoted : Bool) : ValueState → List Char → Option (List Char)
  | state, [] =>
    if quoted then none
    else match state with
      | .single | .braced _ => none
      | .name name => some (lookup name)
      | _ => some []
  | .ending, c :: rest =>
    if c = ' ' ∨ c = '\t' then readValue? lookup quoted .ending rest
    else if c = '#' then if quoted then none else some []
    else none
  | .escaped, c :: rest =>
    match c with
    | '\\' | '\'' | '"' | '$' | ' ' => (readValue? lookup quoted .plain rest).map (c :: ·)
    | 'n' => (readValue? lookup quoted .plain rest).map ('\n' :: ·)
    | _ => none
  | .single, c :: rest =>
    if c = '\'' then readValue? lookup quoted .plain rest else (readValue? lookup quoted .single rest).map (c :: ·)
  | .name name, c :: rest =>
    if Text.isLetter c || Text.isNumber c then readValue? lookup quoted (.name (c :: name)) rest
    else if c = '\x7b' ∧ name = [] then readValue? lookup quoted (.braced []) rest
    else if c = '$' then (readValue? lookup quoted (.name []) rest).map (lookup name ++ ·)
    else (readValue? lookup quoted .plain rest).map (lookup name ++ c :: ·)
  | .braced name, c :: rest =>
    if Text.isLetter c || Text.isNumber c then readValue? lookup quoted (.braced (c :: name)) rest
    else if c = '\x7d' then (readValue? lookup quoted .plain rest).map (lookup name ++ ·)
    else readValue? lookup quoted (.braced (c :: name)) rest
  | .plain, c :: rest =>
    if c = '$' then readValue? lookup quoted (.name []) rest
    else if c = '\\' then readValue? lookup quoted .escaped rest
    else if quoted then
      if c = '"' then readValue? lookup false .plain rest else (readValue? lookup quoted .plain rest).map (c :: ·)
    else if c = '\'' then readValue? lookup quoted .single rest
    else if c = '"' then readValue? lookup true .plain rest
    else if c = ' ' ∨ c = '\t' then readValue? lookup quoted .ending rest
    else (readValue? lookup quoted .plain rest).map (c :: ·)

/-! ### Files -/

/-- A letter or an underscore, and then letters, digits, underscores and points. -/
def readName? (text : List Char) : Option (String × List Char) :=
  let accepts (c : Char) : Bool := c.isAlphanum || c == '_' || c == '.'
  match text with
  | [] => none
  | c :: _ =>
    if c.isAlpha || c == '_' then some (String.ofList (text.takeWhile accepts), text.dropWhile accepts) else none

/-- The name that a line defines, which may stand behind the word `export`, and the text behind the equals
sign. -/
def readDefinition? (line : List Char) : Option (String × List Char) := do
  let (name, rest) ← readName? line
  match Text.trimStart rest with
  | '=' :: rest => return (name, rest)
  | rest =>
    if name = "export" then
      let (name, rest) ← readName? rest
      match Text.trimStart rest with
      | '=' :: rest => return (name, rest)
      | _ => none
    else none

/-- The environment after the lines of a file, below lines that have given values to variables. -/
def addLines (environment : Environment) (above : List (String × String)) :
    List (Option (List Char)) → Environment
  | [] => environment
  | none :: _ => environment
  | some line :: lines =>
    match Text.trim line with
    | [] => environment.addLines above lines
    | '#' :: _ => environment.addLines above lines
    | line =>
      match readDefinition? line with
      | none => environment
      | some (name, rest) =>
        let rest := Text.trimStart rest
        let value? :=
          if rest.head?.all (· == '#') then some []
          else readValue? (substitute environment above) false .plain rest
        match value? with
        | none => environment
        | some value =>
          let value := String.ofList value
          (environment.define name value).addLines ((name, value) :: above) lines

/-- The environment with the variables that a file defines. It may start with a byte order mark. -/
def addFile (environment : Environment) (text : String) : Environment :=
  let characters := text.toList
  let characters := if characters.head? = some '\ufeff' then characters.drop 1 else characters
  environment.addLines [] (logicalLines [] .plain (physicalLines characters))

/-- The runs of accepted characters in a text. -/
def runs (accepts : Char → Bool) : List Char → List (List Char)
  | [] => []
  | c :: rest =>
    if !accepts c then runs accepts rest
    else if rest.head?.any accepts then Text.extendFirst c (runs accepts rest)
    else [c] :: runs accepts rest

/-- The texts that stand behind an opening brace, up to the closing one. -/
def bracedTexts : List Char → List (List Char)
  | [] => []
  | c :: rest => if c = '\x7b' then rest.takeWhile (· != '\x7d') :: bracedTexts rest else bracedTexts rest

/-- The names of variables that reading a file may depend on. -/
def mentionedNames (text : String) : List String :=
  let isPlain (c : Char) : Bool := Text.isLetter c || Text.isNumber c
  let isName (c : Char) : Bool := isPlain c || c == '_' || c == '.'
  (runs isPlain text.toList ++ runs isName text.toList ++ bracedTexts text.toList).map String.ofList

end Environment

end SqlShell
