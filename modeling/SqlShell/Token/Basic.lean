import SqlShell.Text.Location
/-!
# Tokens

The words and signs that SQL text is made of. A token is what a piece of text means to the grammar, together
with the place where the piece starts. Literals keep their text: what number a numeral denotes, or whether it
denotes one at all, is decided where it is used.
-/

namespace SqlShell

/-- The reserved words. The names that Lean reserves itself carry an underscore. -/
inductive Keyword where
  | select
  | insert
  | values
  | table
  | create
  | where_
  | from_
  | into
  | text
  | int
  | boolean
  | drop
  | delete
  | update
  | set
  | order
  | by_
  | asc
  | desc
  | and
  | or
  | not
  | as_
  | null
deriving DecidableEq, Inhabited

namespace Keyword

/-- Every keyword. -/
def all : List Keyword :=
  [.select, .insert, .values, .table, .create, .where_, .from_, .into, .text, .int, .boolean,
   .drop, .delete, .update, .set, .order, .by_, .asc, .desc, .and, .or, .not, .as_, .null]

/-- The lower-case spelling. -/
def spelling : Keyword → String
  | .select => "select"
  | .insert => "insert"
  | .values => "values"
  | .table => "table"
  | .create => "create"
  | .where_ => "where"
  | .from_ => "from"
  | .into => "into"
  | .text => "text"
  | .int => "int"
  | .boolean => "boolean"
  | .drop => "drop"
  | .delete => "delete"
  | .update => "update"
  | .set => "set"
  | .order => "order"
  | .by_ => "by"
  | .asc => "asc"
  | .desc => "desc"
  | .and => "and"
  | .or => "or"
  | .not => "not"
  | .as_ => "as"
  | .null => "null"

/-- Messages name a keyword in capitals. -/
def display (k : Keyword) : String :=
  k.spelling.toUpper

end Keyword

/-- The punctuation and operator signs. -/
inductive Symbol where
  | semicolon
  | asterisk
  | comma
  | leftParen
  | rightParen
  | equal
  | notEqual
  | less
  | greater
  | lessEqual
  | greaterEqual
  | plus
  | minus
  | slash
deriving DecidableEq, Inhabited

namespace Symbol

/-- Every symbol. -/
def all : List Symbol :=
  [.semicolon, .asterisk, .comma, .leftParen, .rightParen, .equal, .notEqual, .less, .greater,
   .lessEqual, .greaterEqual, .plus, .minus, .slash]

/-- The characters of the sign. -/
def spelling : Symbol → String
  | .semicolon => ";"
  | .asterisk => "*"
  | .comma => ","
  | .leftParen => "("
  | .rightParen => ")"
  | .equal => "="
  | .notEqual => "<>"
  | .less => "<"
  | .greater => ">"
  | .lessEqual => "<="
  | .greaterEqual => ">="
  | .plus => "+"
  | .minus => "-"
  | .slash => "/"

/-- Messages quote a sign. -/
def display (s : Symbol) : String :=
  s!"'{s.spelling}'"

end Symbol

/-- The spelling of a truth value. -/
def truthSpelling : Bool → String
  | true => "true"
  | false => "false"

/-- What a token is to the grammar. -/
inductive Token.Kind where
  | keyword (keyword : Keyword)
  | symbol (symbol : Symbol)
  /-- A name. Bare names are in lower case, quoted names are kept as they stand between the quotes. -/
  | identifier (name : String)
  /-- A text literal, without its quotes. -/
  | string (contents : String)
  /-- A number literal, as written. -/
  | numeral (text : String)
  | boolean (value : Bool)
deriving DecidableEq, Inhabited

/-- A token and the location of its first character. -/
structure Token where
  kind : Token.Kind
  location : Location
deriving DecidableEq, Inhabited

namespace Token

/-- The name, the contents of a literal, or the spelling of a keyword, symbol or truth value. -/
def Kind.text : Kind → String
  | .keyword k => k.spelling
  | .symbol s => s.spelling
  | .identifier name => name
  | .string contents => contents
  | .numeral text => text
  | .boolean value => truthSpelling value

/-- How messages name a token. -/
def Kind.display : Kind → String
  | .keyword k => k.display
  | .symbol s => s.display
  | .identifier name => s!"identifier {name}"
  | .string contents => s!"string '{contents}'"
  | .numeral text => s!"number {text}"
  | .boolean value => s!"boolean {truthSpelling value}"

/-- The text of a token's kind. -/
def text (t : Token) : String :=
  t.kind.text

/-- The display form of a token's kind. -/
def display (t : Token) : String :=
  t.kind.display

end Token

end SqlShell
