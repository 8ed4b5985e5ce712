import SqlShell.Parsing.Statement
import SqlShell.Token.Lexing
/-!
# Reading batches

A batch is a text of statements with semicolons between them; a semicolon may also stand behind the last one.
`readBatch` says how far a batch was read even where it fails, and `parse` gives a whole batch or the error.
`TokenStream` holds a token list and a place in it, and makes one reader after another read on from there.
-/

namespace SqlShell

/-- A text that is not SQL: the place of the first token that cannot be right, or of the last token where the
text ends too early, and what was expected there. -/
structure ParseError where
  location : Location
  expected : Expectation
deriving DecidableEq, Inhabited

/-- The wording of the error. -/
def ParseError.message (e : ParseError) : String :=
  s!"Parse error at {e.location.message}: expected {e.expected.message}"

/-- A text that is not a list of tokens, seen as one that is not SQL. -/
def LexError.toParseError (e : LexError) : ParseError :=
  ⟨e.location, .lexeme⟩

/-- The error for a failure while reading a token list. -/
def Failure.toParseError (tokens : List Token) (f : Failure) : ParseError :=
  ⟨((f.rest.head?.or tokens.getLast?).map (·.location)).getD Location.start, f.expected⟩

namespace Parsing

/-- How far a batch was read: the statements, the tokens behind the last statement and its semicolon, and the
failure if there are any such tokens. -/
structure BatchReading where
  statements : List Statement
  rest : List Token
  failure : Option Failure

/-- Reads statements until the tokens run out. -/
def readBatch (nesting : Nat) : List Token → BatchReading
  | [] => ⟨[], [], none⟩
  | t :: tokens =>
    match _hstatement : (statement nesting).read (t :: tokens) with
    | .error f => ⟨[], t :: tokens, some f⟩
    | .ok (s, []) => ⟨[s], [], none⟩
    | .ok (s, u :: rest) =>
      if u.kind = .symbol .semicolon then
        let batch := readBatch nesting rest
        { batch with statements := s :: batch.statements }
      else ⟨[s], u :: rest, some ⟨.statementEnd, u :: rest⟩⟩
termination_by tokens => tokens.length
decreasing_by
  have hlt := ((statement nesting).progresses _hstatement).2
  simp only [List.length_cons] at hlt ⊢
  omega

end Parsing

open Parsing

/-- The statements of a token list. -/
def parseTokens (tokens : List Token) : Except ParseError (List Statement) :=
  match readBatch nestingLimit tokens with
  | ⟨statements, _, none⟩ => .ok statements
  | ⟨_, _, some f⟩ => .error (f.toParseError tokens)

/-- The statements of a text. -/
def parse (source : String) : Except ParseError (List Statement) :=
  match lex source with
  | .error e => .error e.toParseError
  | .ok tokens => parseTokens tokens

/-- A token list, the number of its tokens that have been taken, and the number of parentheses that are open. -/
structure TokenStream where
  tokens : List Token
  taken : Nat
  openParentheses : Nat
deriving DecidableEq, Inhabited

namespace TokenStream

/-- A stream in front of the first token. -/
def ofTokens (tokens : List Token) : TokenStream :=
  ⟨tokens, 0, 0⟩

/-- A stream in front of the first token of a text. -/
def ofSource (source : String) : Except ParseError TokenStream :=
  match lex source with
  | .error e => .error e.toParseError
  | .ok tokens => .ok (ofTokens tokens)

/-- The tokens that have not been taken. -/
def rest (s : TokenStream) : List Token :=
  s.tokens.drop s.taken

/-- All tokens have been taken. -/
def isDone (s : TokenStream) : Bool :=
  s.taken ≥ s.tokens.length

/-- The number of parentheses that may still be opened. -/
def nesting (s : TokenStream) : Nat :=
  nestingLimit - s.openParentheses

/-- The stream after taking tokens down to the given rest. -/
def moveTo (s : TokenStream) (rest : List Token) : TokenStream :=
  { s with taken := s.taken + (s.rest.length - rest.length) }

/-- Makes a reader read on. Where it fails, no token is taken. -/
def run {α : Type} (s : TokenStream) (reader : Reader α) : Except ParseError α × TokenStream :=
  match reader s.rest with
  | .error f => (.error (f.toParseError s.tokens), s)
  | .ok (a, rest) => (.ok a, s.moveTo rest)

/-- Reads an expression. -/
def expression (s : TokenStream) : Except ParseError Expression × TokenStream :=
  s.run (Parsing.expression s.nesting).read

/-- Reads one statement. -/
def statement (s : TokenStream) : Except ParseError Statement × TokenStream :=
  s.run (Parsing.statement s.nesting).read

/-- Reads a SELECT if its keyword comes next. -/
def select? (s : TokenStream) : Except ParseError (Option Select) × TokenStream :=
  s.run (Parsing.select? s.nesting)

/-- Reads an INSERT if its keyword comes next. -/
def insert? (s : TokenStream) : Except ParseError (Option Insert) × TokenStream :=
  s.run (Parsing.insert? s.nesting)

/-- Reads an UPDATE if its keyword comes next. -/
def update? (s : TokenStream) : Except ParseError (Option Update) × TokenStream :=
  s.run (Parsing.update? s.nesting)

/-- Reads a DELETE if its keyword comes next. -/
def delete? (s : TokenStream) : Except ParseError (Option Delete) × TokenStream :=
  s.run (Parsing.delete? s.nesting)

/-- Reads a CREATE TABLE if its keyword comes next. -/
def createTable? (s : TokenStream) : Except ParseError (Option CreateTable) × TokenStream :=
  s.run Parsing.createTable?

/-- Reads a DROP TABLE if its keyword comes next. -/
def dropTable? (s : TokenStream) : Except ParseError (Option DropTable) × TokenStream :=
  s.run Parsing.dropTable?

/-- Reads all statements that are left. Where one fails, the statements before it stay taken. -/
def statements (s : TokenStream) : Except ParseError (List Statement) × TokenStream :=
  let batch := readBatch s.nesting s.rest
  match batch.failure with
  | some f => (.error (f.toParseError s.tokens), s.moveTo batch.rest)
  | none => (.ok batch.statements, s.moveTo batch.rest)

end TokenStream

end SqlShell
