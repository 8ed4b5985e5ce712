import SqlShell.Text.Letter
import SqlShell.Text.Lowercase
import SqlShell.Text.Number
import SqlShell.Token.Basic
/-!
# Words and signs

Keywords, truth values and bare names are all runs of name characters, and a run is always taken whole: it is a
keyword or a truth value if it spells one up to ASCII case, and otherwise it can only be a name. Signs are taken
as long as possible.
-/

namespace SqlShell

/-- A bare name starts with a letter or an underscore. -/
def isNameStart (c : Char) : Bool :=
  Text.isLetter c || c == '_'

/-- A bare name goes on with letters, numbers and underscores. -/
def isNameChar (c : Char) : Bool :=
  Text.isLetter c || Text.isNumber c || c == '_'

/-- The run of name characters at the start of a text. -/
def nameRun (text : List Char) : List Char :=
  text.takeWhile isNameChar

/-- What follows the run of name characters at the start of a text. -/
def afterNameRun (text : List Char) : List Char :=
  text.dropWhile isNameChar

/-- The name that a bare run spells, each character in lower case. -/
def bareName (run : List Char) : String :=
  String.ofList (run.flatMap Text.lower)

/-- The keyword or truth value that a run of name characters spells, whatever the case of its ASCII letters. -/
def Token.Kind.ofWord? (run : List Char) : Option Token.Kind :=
  let word := String.ofList (run.map Char.toLower)
  if word = truthSpelling true then some (.boolean true)
  else if word = truthSpelling false then some (.boolean false)
  else (Keyword.all.find? (·.spelling = word)).map .keyword

/-- The longest sign at the start of a text, and the text after it. -/
def Symbol.split? : List Char → Option (Symbol × List Char)
  | '<' :: '>' :: rest => some (.notEqual, rest)
  | '<' :: '=' :: rest => some (.lessEqual, rest)
  | '<' :: rest => some (.less, rest)
  | '>' :: '=' :: rest => some (.greaterEqual, rest)
  | '>' :: rest => some (.greater, rest)
  | '=' :: rest => some (.equal, rest)
  | ';' :: rest => some (.semicolon, rest)
  | '*' :: rest => some (.asterisk, rest)
  | ',' :: rest => some (.comma, rest)
  | '(' :: rest => some (.leftParen, rest)
  | ')' :: rest => some (.rightParen, rest)
  | '+' :: rest => some (.plus, rest)
  | '-' :: rest => some (.minus, rest)
  | '/' :: rest => some (.slash, rest)
  | _ => none

theorem nameRun_append_afterNameRun (text : List Char) : nameRun text ++ afterNameRun text = text :=
  List.takeWhile_append_dropWhile

theorem isNameChar_of_isNameStart {c : Char} (h : isNameStart c = true) : isNameChar c = true := by
  simp only [isNameStart, isNameChar, Bool.or_eq_true] at h ⊢
  rcases h with h | h <;> simp [h]

/-- A word has at least one character. -/
theorem Token.Kind.ofWord?_nil : Token.Kind.ofWord? [] = none := by
  decide

/-- A sign is a piece of the text it was read from. -/
theorem Symbol.split?_tiles {text rest : List Char} {s : Symbol} (h : Symbol.split? text = some (s, rest)) :
    s.spelling.toList ++ rest = text := by
  unfold Symbol.split? at h
  split at h <;> simp at h <;> obtain ⟨rfl, rfl⟩ := h <;> rfl

end SqlShell
