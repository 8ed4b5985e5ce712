import SqlShell.Expression
import SqlShell.Table
/-!
# Bound expressions

Before a statement looks at any row, its expressions are bound to the columns of the table: names
become positions, numbers become ints, and the operators are checked against the types of their operands. What
is left is evaluated on one row after another. Only literals and columns under prefix operators have values.
-/

namespace SqlShell

/-- The type of the values that an operator takes and gives. -/
def PrefixOperator.type : PrefixOperator → ColumnType
  | .negate | .identity => .int
  | .not => .boolean

/-- The operator that a token stands for in front of an operand. -/
def PrefixOperator.ofKind? : Token.Kind → Option PrefixOperator
  | .symbol .minus => some .negate
  | .symbol .plus => some .identity
  | .keyword .not => some .not
  | _ => none

/-- The value of an operator over a value. Every operator gives NULL over NULL. -/
def PrefixOperator.apply : PrefixOperator → Cell → Except StatementError Cell
  | _, .null => .ok .null
  | .identity, cell => .ok cell
  | .negate, .int value =>
    if value = Int64.minValue then .error (.negationOverflow value) else .ok (.int (-value))
  | .not, .boolean value => .ok (.boolean !value)
  | operator, cell => .error (.invalidExpression (.cannotApply operator cell))

/-- What the operators of a bound expression are applied to. -/
inductive Operand where
  | literal (cell : Cell)
  | column (index : Nat)
deriving DecidableEq, Inhabited

/-- The value of an operand on a row. -/
def Operand.value (row : Row) : Operand → Cell
  | .literal cell => cell
  | .column index => row[index]?.getD .null

/-- An expression bound to the columns of a table: an operand and the operators over it, the one next to it
first. -/
structure BoundExpression where
  operand : Operand
  operators : List PrefixOperator
  /-- The type of all values. A bare NULL has none. -/
  type : Option ColumnType
  /-- The name of the column, where the expression is nothing but a column. -/
  columnName : Option String
deriving DecidableEq, Inhabited

namespace BoundExpression

/-- A column and nothing else. -/
def ofColumn (index : Nat) (type : ColumnType) (name : String) : BoundExpression :=
  ⟨.column index, [], some type, some name⟩

/-- A literal and nothing else. -/
def ofLiteral (cell : Cell) : BoundExpression :=
  ⟨.literal cell, [], cell.type?, none⟩

/-- The int literal of a written number, or of its negation. -/
def ofNumeral (text : String) (negative : Bool) : Except StatementError BoundExpression :=
  match Numeral.toInt64 text.toList negative with
  | .ok value => .ok (ofLiteral (.int value))
  | .error e => .error (.numeral e (if negative then "-" ++ text else text))

/-- The expression under one more operator, whose type it must have. -/
def underOperator (bound : BoundExpression) (token : Token) : Except StatementError BoundExpression :=
  match PrefixOperator.ofKind? token.kind with
  | none => .error (.invalidExpression (.unknownPrefix token.text))
  | some operator =>
    let under : BoundExpression :=
      ⟨bound.operand, bound.operators ++ [operator], some operator.type, none⟩
    match bound.type with
    | none => .ok under
    | some found =>
      if found = operator.type then .ok under
      else .error (.invalidExpression (.operatorType token.text found))

/-- The expression under operators, the first one next to it. It is no longer just a column. -/
def underOperators (bound : BoundExpression) : List Token → Except StatementError BoundExpression
  | [] => .ok { bound with columnName := none }
  | token :: tokens => do (← bound.underOperator token).underOperators tokens

/-- Binds a name or a literal. Where there is no table, there are no names. -/
def ofTerm (table : Option Table) : Token.Kind → Except StatementError BoundExpression
  | .identifier name =>
    match table with
    | none => .error (.invalidExpression (.columnNotAllowed name))
    | some table =>
      match table.position? name with
      | none => .error (.columnDoesNotExist name)
      | some index =>
        match table.columns[index]? with
        | none => .error .outOfBounds
        | some column => .ok (ofColumn index column.type name)
  | .numeral text => ofNumeral text false
  | .string contents => .ok (ofLiteral (.text contents))
  | .boolean value => .ok (ofLiteral (.boolean value))
  | .keyword .null => .ok (ofLiteral .null)
  | kind => .error (.invalidExpression (.unexpectedToken kind))

/-- The number that an operand spells, if the sign next to it is a minus. That minus is part of the number, so
that the least int can be written, and the other signs remain. -/
def signedNumeral? : List Token → Expression → Option (String × List Token)
  | sign :: signs, .term ⟨.numeral text, _⟩ => if sign.kind = .symbol .minus then some (text, signs) else none
  | _, _ => none

/-- Binds an expression to the columns of a table, or where there is no table. -/
def ofExpression (table : Option Table) : Expression → Except StatementError BoundExpression
  | .term token => ofTerm table token.kind
  | .unary operators operand =>
    match signedNumeral? operators operand with
    | some (text, operators) => do (← ofNumeral text true).underOperators operators
    | none => do (← ofExpression table operand).underOperators operators
  | .binary operator _ _ => .error (.invalidExpression (.binaryOperator operator.text))

/-- Applies operators to a value, the first one first. -/
def applyAll : List PrefixOperator → Cell → Except StatementError Cell
  | [], cell => .ok cell
  | operator :: operators, cell => do applyAll operators (← operator.apply cell)

/-- The value of the expression on a row. -/
def evaluate (bound : BoundExpression) (row : Row) : Except StatementError Cell :=
  applyAll bound.operators (bound.operand.value row)

/-- Binds a WHERE condition, which must be boolean or a bare NULL. -/
def ofCondition (table : Table) : Option Expression → Except StatementError (Option BoundExpression)
  | none => .ok none
  | some e => do
    let bound ← ofExpression (some table) e
    if bound.type = none ∨ bound.type = some .boolean then return some bound
    else .error .conditionNotBoolean

/-- Whether a row satisfies a condition: the condition is true on it, or there is none. -/
def admits (condition : Option BoundExpression) (row : Row) : Except StatementError Bool :=
  match condition with
  | none => .ok true
  | some bound => do return (← bound.evaluate row) == .boolean true

end BoundExpression

end SqlShell
