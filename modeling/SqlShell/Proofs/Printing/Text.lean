import SqlShell.Proofs.Parsing.Takes
import SqlShell.Proofs.Printing.Token
/-!
# Printing statements

A statement is printed as its tokens with single blanks between them, and statements with semicolons between them.
Parentheses are added where the tree is not what the grammar would make of the tokens without them: where a looser
expression stands in the place of a tighter one (`Expression.kinds`).
-/

namespace SqlShell

open Parsing

/-! ### Expressions -/

def parenthesized (kinds : List Token.Kind) : List Token.Kind :=
  .symbol .leftParen :: (kinds ++ [.symbol .rightParen])

namespace Expression

/-- The level of a binary operator. -/
def levelOf (operator : Token) : Level :=
  (level? operator.kind).getD .disjunction

/-- What an expression is without parentheses. -/
def form : Expression → Nonterminal
  | .term _ => .primary
  | .unary _ _ => .operand
  | .binary operator _ _ => .chain (levelOf operator)

/-- The expression is too loose for the place where it stands. -/
def IsLooser (e : Expression) (place : Nonterminal) : Prop :=
  e.form.rank < place.rank

instance (e : Expression) (place : Nonterminal) : Decidable (e.IsLooser place) :=
  inferInstanceAs (Decidable (_ < _))

/-- The tokens of an expression. The operand of signs is a primary, the operators of a level join its parts, and only
to the left there may be a chain of the same level. -/
def kinds : Expression → List Token.Kind
  | .term t => [t.kind]
  | .unary operators operand =>
    operators.reverse.map (·.kind) ++
      if operand.IsLooser .primary then parenthesized operand.kinds else operand.kinds
  | .binary operator left right =>
    (if left.IsLooser (.chain (levelOf operator)) then parenthesized left.kinds else left.kinds) ++
      operator.kind ::
        if right.IsLooser (levelOf operator).part then parenthesized right.kinds else right.kinds

/-- How deep the parentheses are nested in which an expression is printed. -/
def depth : Expression → Nat
  | .term _ => 0
  | .unary _ operand => if operand.IsLooser .primary then operand.depth + 1 else operand.depth
  | .binary operator left right =>
    max (if left.IsLooser (.chain (levelOf operator)) then left.depth + 1 else left.depth)
      (if right.IsLooser (levelOf operator).part then right.depth + 1 else right.depth)

end Expression

/-! ### Statements -/

def NullClause.kinds : NullClause → List Token.Kind
  | .notNull => [.keyword .not, .keyword .null]
  | .null => [.keyword .null]
  | .unspecified => []

def ColumnDefinition.kinds (column : ColumnDefinition) : List Token.Kind :=
  column.name.kind :: column.type.kind :: column.nullability.kinds

def SelectItem.kinds : SelectItem → List Token.Kind
  | .star t => [t.kind]
  | .expression e columnAlias => e.kinds ++ clause .as_ (columnAlias.map fun t => [t.kind])

def SortKey.kinds (key : SortKey) : List Token.Kind :=
  key.expression.kinds ++ if key.descending then [.keyword .desc] else []

def Assignment.kinds (assignment : Assignment) : List Token.Kind :=
  assignment.column.kind :: .symbol .equal :: assignment.value.kinds

def rowKinds (row : List Expression) : List Token.Kind :=
  parenthesized (separated .comma (row.map Expression.kinds))

def orderKinds (order : List SortKey) : List Token.Kind :=
  if order.isEmpty then [] else .keyword .order :: .keyword .by_ :: separated .comma (order.map SortKey.kinds)

namespace Statement

/-- The tokens of a statement. -/
def kinds : Statement → List Token.Kind
  | .create s =>
    .keyword .create :: .keyword .table :: s.name.kind ::
      parenthesized (separated .comma (s.columns.map ColumnDefinition.kinds))
  | .drop s => [.keyword .drop, .keyword .table, s.name.kind]
  | .insert s =>
    .keyword .insert :: .keyword .into :: s.table.kind :: .keyword .values ::
      separated .comma (s.rows.map rowKinds)
  | .select s =>
    .keyword .select :: (separated .comma (s.items.map SelectItem.kinds) ++ .keyword .from_ :: s.table.kind ::
      (clause .as_ (s.tableAlias.map fun t => [t.kind]) ++
        (clause .where_ (s.condition.map Expression.kinds) ++ orderKinds s.order)))
  | .delete s =>
    .keyword .delete :: .keyword .from_ :: s.table.kind :: clause .where_ (s.condition.map Expression.kinds)
  | .update s =>
    .keyword .update :: s.table.kind :: .keyword .set ::
      (separated .comma (s.assignments.map Assignment.kinds) ++ clause .where_ (s.condition.map Expression.kinds))

/-- The text of a batch. -/
def print (statements : List Statement) : String :=
  ";".intercalate (statements.map fun s => printTokens s.kinds)

end Statement

/-! ### Well-formed trees -/

/-- The token is a name, of whatever characters. -/
def Token.IsName (t : Token) : Prop :=
  Reader.isIdentifier t.kind = true

/-- The tree has the tokens that its constructors are for. -/
inductive Expression.WellFormed : Expression → Prop
  | term {t : Token} (hleaf : IsLeaf t.kind) (hspellable : t.kind.IsSpellable) : WellFormed (.term t)
  | unary {operators : List Token} {operand : Expression} (hne : operators ≠ [])
      (hsigns : ∀ sign ∈ operators, IsSign sign.kind) (hoperand : WellFormed operand) :
      WellFormed (.unary operators operand)
  | binary {operator : Token} {left right : Expression} (hoperator : (level? operator.kind).isSome = true)
      (hleft : WellFormed left) (hright : WellFormed right) : WellFormed (.binary operator left right)

/-- The expression is well-formed, and is printed with so many parentheses open at most. -/
structure Expression.Printable (nesting : Nat) (e : Expression) : Prop where
  wellFormed : e.WellFormed
  depth_le : e.depth ≤ nesting

structure ColumnDefinition.Printable (column : ColumnDefinition) : Prop where
  name : column.name.IsName
  type : isTypeWord column.type.kind = true

def SelectItem.Printable (nesting : Nat) : SelectItem → Prop
  | .star t => t.kind = .symbol .asterisk
  | .expression e columnAlias => e.Printable nesting ∧ ∀ t ∈ columnAlias, t.IsName

structure CreateTable.Printable (s : CreateTable) : Prop where
  name : s.name.IsName
  columns_ne_nil : s.columns ≠ []
  columns : ∀ column ∈ s.columns, column.Printable

structure Insert.Printable (nesting : Nat) (s : Insert) : Prop where
  table : s.table.IsName
  rows_ne_nil : s.rows ≠ []
  row_ne_nil : ∀ row ∈ s.rows, row ≠ []
  rows : ∀ row ∈ s.rows, ∀ e ∈ row, e.Printable nesting

structure Select.Printable (nesting : Nat) (s : Select) : Prop where
  items_ne_nil : s.items ≠ []
  items : ∀ item ∈ s.items, item.Printable nesting
  table : s.table.IsName
  tableAlias : ∀ t ∈ s.tableAlias, t.IsName
  condition : ∀ e ∈ s.condition, e.Printable nesting
  order : ∀ key ∈ s.order, key.expression.Printable nesting

structure Delete.Printable (nesting : Nat) (s : Delete) : Prop where
  table : s.table.IsName
  condition : ∀ e ∈ s.condition, e.Printable nesting

structure Update.Printable (nesting : Nat) (s : Update) : Prop where
  table : s.table.IsName
  assignments_ne_nil : s.assignments ≠ []
  columns : ∀ assignment ∈ s.assignments, assignment.column.IsName
  values : ∀ assignment ∈ s.assignments, assignment.value.Printable nesting
  condition : ∀ e ∈ s.condition, e.Printable nesting

/-- The statement is well-formed, and its expressions are printed with so many parentheses open at most. The ones
around rows and around column definitions do not count. -/
def Statement.Printable (nesting : Nat) : Statement → Prop
  | .create s => s.Printable
  | .drop s => s.name.IsName
  | .insert s => s.Printable nesting
  | .select s => s.Printable nesting
  | .delete s => s.Printable nesting
  | .update s => s.Printable nesting

/-! ### Deciding well-formedness -/

section Decidable

variable {nesting : Nat}

instance (t : Token) : Decidable t.IsName :=
  inferInstanceAs (Decidable (_ = true))

instance Expression.decidableWellFormed : (e : Expression) → Decidable e.WellFormed
  | .term t =>
    decidable_of_iff (IsLeaf t.kind ∧ t.kind.IsSpellable)
      ⟨fun ⟨hleaf, hspellable⟩ => .term hleaf hspellable, fun | .term hleaf hspellable => ⟨hleaf, hspellable⟩⟩
  | .unary operators operand =>
    have := decidableWellFormed operand
    decidable_of_iff (operators ≠ [] ∧ (∀ sign ∈ operators, IsSign sign.kind) ∧ operand.WellFormed)
      ⟨fun ⟨hne, hsigns, hoperand⟩ => .unary hne hsigns hoperand,
        fun | .unary hne hsigns hoperand => ⟨hne, hsigns, hoperand⟩⟩
  | .binary operator left right =>
    have := decidableWellFormed left
    have := decidableWellFormed right
    decidable_of_iff ((level? operator.kind).isSome = true ∧ left.WellFormed ∧ right.WellFormed)
      ⟨fun ⟨hoperator, hleft, hright⟩ => .binary hoperator hleft hright,
        fun | .binary hoperator hleft hright => ⟨hoperator, hleft, hright⟩⟩

instance (e : Expression) : Decidable (e.Printable nesting) :=
  decidable_of_iff (e.WellFormed ∧ e.depth ≤ nesting) ⟨fun ⟨h, h'⟩ => ⟨h, h'⟩, fun ⟨h, h'⟩ => ⟨h, h'⟩⟩

instance (column : ColumnDefinition) : Decidable column.Printable :=
  decidable_of_iff (column.name.IsName ∧ isTypeWord column.type.kind = true)
    ⟨fun ⟨h, h'⟩ => ⟨h, h'⟩, fun ⟨h, h'⟩ => ⟨h, h'⟩⟩

instance (item : SelectItem) : Decidable (item.Printable nesting) :=
  match item with
  | .star t => inferInstanceAs (Decidable (t.kind = _))
  | .expression e columnAlias => inferInstanceAs (Decidable (e.Printable nesting ∧ ∀ t ∈ columnAlias, t.IsName))

instance (s : CreateTable) : Decidable s.Printable :=
  decidable_of_iff (s.name.IsName ∧ s.columns ≠ [] ∧ ∀ column ∈ s.columns, column.Printable)
    ⟨fun ⟨h₁, h₂, h₃⟩ => ⟨h₁, h₂, h₃⟩, fun ⟨h₁, h₂, h₃⟩ => ⟨h₁, h₂, h₃⟩⟩

instance (s : Insert) : Decidable (s.Printable nesting) :=
  decidable_of_iff (s.table.IsName ∧ s.rows ≠ [] ∧ (∀ row ∈ s.rows, row ≠ []) ∧
      ∀ row ∈ s.rows, ∀ e ∈ row, e.Printable nesting)
    ⟨fun ⟨h₁, h₂, h₃, h₄⟩ => ⟨h₁, h₂, h₃, h₄⟩, fun ⟨h₁, h₂, h₃, h₄⟩ => ⟨h₁, h₂, h₃, h₄⟩⟩

instance (s : Select) : Decidable (s.Printable nesting) :=
  decidable_of_iff (s.items ≠ [] ∧ (∀ item ∈ s.items, item.Printable nesting) ∧ s.table.IsName ∧
      (∀ t ∈ s.tableAlias, t.IsName) ∧ (∀ e ∈ s.condition, e.Printable nesting) ∧
      ∀ key ∈ s.order, key.expression.Printable nesting)
    ⟨fun ⟨h₁, h₂, h₃, h₄, h₅, h₆⟩ => ⟨h₁, h₂, h₃, h₄, h₅, h₆⟩, fun ⟨h₁, h₂, h₃, h₄, h₅, h₆⟩ => ⟨h₁, h₂, h₃, h₄, h₅, h₆⟩⟩

instance (s : Delete) : Decidable (s.Printable nesting) :=
  decidable_of_iff (s.table.IsName ∧ ∀ e ∈ s.condition, e.Printable nesting)
    ⟨fun ⟨h, h'⟩ => ⟨h, h'⟩, fun ⟨h, h'⟩ => ⟨h, h'⟩⟩

instance (s : Update) : Decidable (s.Printable nesting) :=
  decidable_of_iff (s.table.IsName ∧ s.assignments ≠ [] ∧ (∀ assignment ∈ s.assignments, assignment.column.IsName) ∧
      (∀ assignment ∈ s.assignments, assignment.value.Printable nesting) ∧ ∀ e ∈ s.condition, e.Printable nesting)
    ⟨fun ⟨h₁, h₂, h₃, h₄, h₅⟩ => ⟨h₁, h₂, h₃, h₄, h₅⟩, fun ⟨h₁, h₂, h₃, h₄, h₅⟩ => ⟨h₁, h₂, h₃, h₄, h₅⟩⟩

instance (s : Statement) : Decidable (s.Printable nesting) :=
  match s with
  | .create s => inferInstanceAs (Decidable s.Printable)
  | .drop s => inferInstanceAs (Decidable s.name.IsName)
  | .insert s => inferInstanceAs (Decidable (s.Printable nesting))
  | .select s => inferInstanceAs (Decidable (s.Printable nesting))
  | .delete s => inferInstanceAs (Decidable (s.Printable nesting))
  | .update s => inferInstanceAs (Decidable (s.Printable nesting))

end Decidable

end SqlShell
