import SqlShell.Cell
import SqlShell.Numeral.Value
import SqlShell.Parsing.Batch
/-!
# Errors

Why a statement cannot be executed. Each error is a cause, and its wording is decided in one place.
-/

namespace SqlShell

/-- The operators that stand in front of an operand. -/
inductive PrefixOperator where
  | negate
  | identity
  | not
deriving DecidableEq, Inhabited

/-- The word for an operator in messages. -/
def PrefixOperator.name : PrefixOperator → String
  | .negate => "Negate"
  | .identity => "Identity"
  | .not => "Not"

/-- Why an expression has no value. -/
inductive ExpressionError where
  | columnNotAllowed (name : String)
  | unexpectedToken (kind : Token.Kind)
  | unknownPrefix (text : String)
  /-- An operator over an operand of another type than its own. -/
  | operatorType (text : String) (found : ColumnType)
  | binaryOperator (text : String)
  /-- An operator over a value of another type than its own. -/
  | cannotApply (operator : PrefixOperator) (value : Cell)
deriving DecidableEq, Inhabited

/-- The wording of the error. -/
def ExpressionError.message : ExpressionError → String
  | .columnNotAllowed name => s!"column reference '{name}' is not allowed here"
  | .unexpectedToken kind => s!"unexpected {kind.display}"
  | .unknownPrefix text => s!"unknown prefix operator '{text}'"
  | .operatorType text found => s!"operator '{text.toUpper}' cannot be applied to {found.name}"
  | .binaryOperator text => s!"binary operator '{text.toUpper}' is not supported"
  | .cannotApply operator value => s!"cannot apply {operator.name} to {value.display}"

/-- Why a statement is refused. -/
inductive StatementError where
  | unsupportedColumnType (type : String)
  | tableAlreadyExists (name : String)
  | tableDoesNotExist (name : String)
  | columnDoesNotExist (name : String)
  | duplicateColumn (name : String)
  | conditionNotBoolean
  | notEnoughValues (expected found : Nat)
  | tooManyValues (expected found : Nat)
  | typeMismatch (column : String) (expected found : ColumnType)
  | nullConstraint (column : String)
  | invalidExpression (error : ExpressionError)
  /-- A written number, with the minus sign that belongs to it, that is not an int. -/
  | numeral (error : NumeralError) (literal : String)
  | negationOverflow (value : Int64)
  /-- A position behind the end of a row or of the columns. -/
  | outOfBounds
deriving DecidableEq, Inhabited

/-- The wording of the error. -/
def StatementError.message : StatementError → String
  | .unsupportedColumnType type => s!"Unsupported column type: {type}"
  | .tableAlreadyExists name => s!"Table '{name}' already exists"
  | .tableDoesNotExist name => s!"Table '{name}' does not exist"
  | .columnDoesNotExist name => s!"Column '{name}' does not exist"
  | .duplicateColumn name => s!"Duplicate column '{name}'"
  | .conditionNotBoolean => "WHERE clause must be a boolean expression"
  | .notEnoughValues expected found => s!"Not enough values: expected {expected}, found {found}"
  | .tooManyValues expected found => s!"Too many values: expected {expected}, found {found}"
  | .typeMismatch column expected found => s!"Column '{column}' has type {expected.name}, got {found.name}"
  | .nullConstraint column => s!"Column '{column}' does not accept NULL"
  | .invalidExpression error => s!"Invalid expression: {error.message}"
  | .numeral .malformed literal => s!"invalid numeric literal {literal}"
  | .numeral .notWhole literal => s!"numeric literal {literal} is not a whole number"
  | .numeral .outOfRange literal => s!"numeric literal {literal} is out of range for int"
  | .negationOverflow value => s!"integer overflow negating {value.toInt}"
  | .outOfBounds => "position out of bounds"

/-- Anything that can go wrong between a text and its execution. -/
inductive BatchError where
  | parse (error : ParseError)
  | statement (error : StatementError)
deriving DecidableEq, Inhabited

/-- The wording of the error. -/
def BatchError.message : BatchError → String
  | .parse error => error.message
  | .statement error => error.message

end SqlShell
