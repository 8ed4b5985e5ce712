import SqlShell.Token.Basic
/-!
# Expressions

An expression keeps the tokens it was read from, so that every name and literal in it still has its place in
the text. Parentheses leave no trace: the tree itself says what belongs together.
-/

namespace SqlShell

/-- An expression over names and literals. -/
inductive Expression where
  /-- A literal or a name. -/
  | term (token : Token)
  /-- Prefix signs over an operand, the one next to the operand first. -/
  | unary (operators : List Token) (operand : Expression)
  | binary (operator : Token) (left right : Expression)
deriving DecidableEq, Inhabited

end SqlShell
