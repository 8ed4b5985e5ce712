import SqlShell.Proofs.Parsing.Relocation
import SqlShell.Shell.Script
/-!
# Executing moved statements

The places that a statement's tokens have in the text play no part in what the statement does. An expression binds
to the same bound expression wherever it stands (`BoundExpression.ofExpression_relocate`); from there the equality
climbs through the clauses, one statement, and a run of statements.
-/

namespace SqlShell

variable (f : Location → Location)

/-! ### Expressions -/

namespace BoundExpression

theorem underOperator_relocate (bound : BoundExpression) (token : Token) :
    bound.underOperator (token.relocate f) = bound.underOperator token := by
  simp only [underOperator, Token.kind_relocate, Token.text_relocate]

theorem underOperators_relocate (bound : BoundExpression) (tokens : List Token) :
    bound.underOperators (tokens.map (Token.relocate f)) = bound.underOperators tokens := by
  induction tokens generalizing bound with
  | nil => rfl
  | cons token tokens ih =>
    simp only [List.map_cons, underOperators, underOperator_relocate]
    exact congrArg _ (funext ih)

theorem signedNumeral?_relocate (signs : List Token) (e : Expression) :
    signedNumeral? (signs.map (Token.relocate f)) (e.relocate f) =
      (signedNumeral? signs e).map fun pair => (pair.1, pair.2.map (Token.relocate f)) := by
  match signs, e with
  | [], .term _ => rfl
  | [], .unary .. => rfl
  | [], .binary .. => rfl
  | _ :: _, .unary .. => rfl
  | _ :: _, .binary .. => rfl
  | sign :: signs, .term ⟨kind, location⟩ =>
    cases kind with
    | numeral text =>
      by_cases h : sign.kind = .symbol .minus <;> simp [signedNumeral?, Expression.relocate, Token.relocate, h]
    | _ => rfl

theorem ofExpression_relocate (table : Option Table) (e : Expression) :
    ofExpression table (e.relocate f) = ofExpression table e := by
  induction e with
  | term token => rfl
  | unary operators operand ih =>
    rw [Expression.relocate, ofExpression, ofExpression, signedNumeral?_relocate]
    cases signedNumeral? operators operand with
    | none => simp only [Option.map_none, ih, underOperators_relocate]
    | some pair => simp only [Option.map_some, underOperators_relocate]
  | binary operator left right => rfl

theorem ofCondition_relocate (table : Table) (condition : Option Expression) :
    ofCondition table (condition.map (Expression.relocate f)) = ofCondition table condition := by
  cases condition with
  | none => rfl
  | some e => simp only [Option.map_some, ofCondition, ofExpression_relocate]

end BoundExpression

/-! ### Clauses -/

theorem addColumns_relocate (columns : List Column) (definitions : List ColumnDefinition) :
    addColumns columns (definitions.map (ColumnDefinition.relocate f)) = addColumns columns definitions := by
  induction definitions generalizing columns with
  | nil => rfl
  | cons definition definitions ih =>
    simp only [List.map_cons, addColumns, ih]
    rfl

namespace Table

theorem newRow_relocate (table : Table) (values : List Expression) :
    table.newRow (values.map (Expression.relocate f)) = table.newRow values := by
  simp only [newRow, List.length_map, List.mapM_map, Function.comp_def, BoundExpression.ofExpression_relocate]

theorem bindAssignments_relocate (table : Table) (assigned : List Nat) (assignments : List Assignment) :
    table.bindAssignments assigned (assignments.map (Assignment.relocate f)) =
      table.bindAssignments assigned assignments := by
  induction assignments generalizing assigned with
  | nil => rfl
  | cons assignment assignments ih =>
    have hvalue : BoundExpression.ofExpression (some table) (assignment.relocate f).value =
        BoundExpression.ofExpression (some table) assignment.value := BoundExpression.ofExpression_relocate ..
    simp only [List.map_cons, bindAssignments, hvalue, ih]
    rfl

theorem projections_relocate (table : Table) (position : Nat) (items : List SelectItem) :
    table.projections position (items.map (SelectItem.relocate f)) = table.projections position items := by
  induction items generalizing position with
  | nil => rfl
  | cons item items ih =>
    rw [List.map_cons]
    cases item with
    | star token =>
      show table.projections position (.star (token.relocate f) :: items.map (SelectItem.relocate f)) = _
      rw [projections, ih, projections]
    | expression e columnAlias =>
      show table.projections position
        (.expression (e.relocate f) (columnAlias.map (Token.relocate f)) :: items.map (SelectItem.relocate f)) = _
      have hheading (bound : BoundExpression) :
          heading position bound (columnAlias.map (Token.relocate f)) = heading position bound columnAlias := by
        cases columnAlias <;> rfl
      simp only [projections, BoundExpression.ofExpression_relocate, hheading, ih]

end Table

/-! ### Statements and runs -/

namespace Catalog

theorem select_relocate (catalog : Catalog) (s : Select) : catalog.select (s.relocate f) = catalog.select s := by
  simp only [select, Select.relocate, Token.text_relocate, Table.projections_relocate, List.mapM_map, Function.comp_def,
    BoundExpression.ofCondition_relocate, SortKey.relocate, BoundExpression.ofExpression_relocate]

theorem execute_relocate (catalog : Catalog) (s : Statement) : catalog.execute (s.relocate f) = catalog.execute s := by
  cases s with
  | create s => simp only [Statement.relocate, execute, createTable, CreateTable.relocate, Token.text_relocate,
      addColumns_relocate]
  | drop s => rfl
  | insert s => simp only [Statement.relocate, execute, insert, Insert.relocate, Token.text_relocate, List.mapM_map,
      Function.comp_def, Table.newRow_relocate]
  | select s => simp only [Statement.relocate, execute, select_relocate]
  | delete s => simp only [Statement.relocate, execute, delete, Delete.relocate, Token.text_relocate,
      BoundExpression.ofCondition_relocate]
  | update s => simp only [Statement.relocate, execute, update, Update.relocate, Token.text_relocate,
      Table.bindAssignments_relocate, BoundExpression.ofCondition_relocate]

theorem step_relocate (catalog : Catalog) (s : Statement) : catalog.step (s.relocate f) = catalog.step s := by
  simp only [step, execute_relocate]

theorem run_relocate (catalog : Catalog) (statements : List Statement) :
    catalog.run (statements.map (Statement.relocate f)) = catalog.run statements := by
  induction statements generalizing catalog with
  | nil => rfl
  | cons s statements ih => simp only [List.map_cons, run, step_relocate, ih]

end Catalog

theorem Shell.runStatements_relocate (stopOnError : Bool) (catalog : Catalog) (statements : List Statement) :
    runStatements stopOnError catalog (statements.map (Statement.relocate f)) =
      runStatements stopOnError catalog statements := by
  induction statements generalizing catalog with
  | nil => rfl
  | cons s statements ih => simp only [List.map_cons, runStatements, Catalog.step_relocate, ih]

end SqlShell
