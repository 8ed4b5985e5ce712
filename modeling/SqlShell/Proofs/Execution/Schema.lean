import SqlShell.Proofs.Execution.Failures
import SqlShell.Proofs.Execution.Tables
/-!
# Errors and rows

Every statement checks all that can be checked without looking at the rows before it looks at the first one. So two
catalogs with the same columns refuse a statement with the same error, whatever their rows are
(`schema_errors_independent_of_rows`). Left out are the two errors that only rows can give: an overflow, and in an
UPDATE a NULL for a column that does not take it.
-/

namespace SqlShell

variable {α β : Type}

/-- There are tables under the same names, and they have the same columns. -/
def Catalog.SameSchema (catalog other : Catalog) : Prop :=
  ∀ name, (catalog.table? name).map (·.columns) = (other.table? name).map (·.columns)

/-- The errors that depend on the rows. -/
def Statement.IsDataError : Statement → StatementError → Prop
  | .update _, e => e.IsOverflow ∨ e.IsNullConstraint
  | _, e => e.IsOverflow

/-- An error of `x` is an error of `y` too, if it is not of the kind. -/
def SharesErrors (kind : StatementError → Prop) (x y : Except StatementError α) : Prop :=
  ∀ e, ¬kind e → x = .error e → y = .error e

namespace SharesErrors

variable {kind : StatementError → Prop} {x y : Except StatementError α}

theorem refl (x : Except StatementError α) : SharesErrors kind x x :=
  fun _ _ h => h

theorem of_failsOnly (h : FailsOnly kind x) : SharesErrors kind x y :=
  fun e hkind he => absurd (h e he) hkind

/-- Both computations start with the same one. -/
theorem bind {f g : α → Except StatementError β} (h : ∀ a, x = .ok a → SharesErrors kind (f a) (g a)) :
    SharesErrors kind (x >>= f) (x >>= g) := by
  cases x with
  | error e => exact refl _
  | ok a => exact h a rfl

theorem map (h : SharesErrors kind x y) (f g : α → β) :
    SharesErrors kind (x >>= fun a => pure (f a)) (y >>= fun a => pure (g a)) := by
  intro e hkind he
  cases x with
  | ok a => cases (show (Except.ok (f a) : Except StatementError β) = .error e from he)
  | error e' =>
    obtain rfl := Except.error.inj he
    rw [h e' hkind rfl]
    rfl

theorem find {catalog other : Catalog} {name : String} {f g : Table → Except StatementError α}
    (hsame : catalog.SameSchema other)
    (h : ∀ columns rows rows', catalog.table? name = some ⟨columns, rows⟩ →
      SharesErrors kind (f ⟨columns, rows⟩) (g ⟨columns, rows'⟩)) :
    SharesErrors kind (catalog.find name >>= f) (other.find name >>= g) := by
  have hcolumns := hsame name
  rw [Catalog.find, Catalog.find]
  cases htable : catalog.table? name with
  | none =>
    rw [htable, Option.map_none] at hcolumns
    rw [Option.map_eq_none_iff.1 hcolumns.symm]
    exact refl _
  | some table =>
    rw [htable, Option.map_some] at hcolumns
    obtain ⟨table', htable', hsameColumns⟩ := Option.map_eq_some_iff.1 hcolumns.symm
    obtain ⟨columns, rows⟩ := table
    obtain ⟨columns', rows'⟩ := table'
    obtain rfl : columns' = columns := hsameColumns
    rw [htable']
    exact h _ _ _ htable

end SharesErrors

/-! ### Binding does not look at rows -/

section

variable (columns : List Column) (rows rows' : List Row)

theorem ofExpression_withRows (e : Expression) :
    BoundExpression.ofExpression (some ⟨columns, rows⟩) e = BoundExpression.ofExpression (some ⟨columns, rows'⟩) e := by
  induction e with
  | term token => rfl
  | unary operators operand ih => rw [BoundExpression.ofExpression, BoundExpression.ofExpression, ih]
  | binary operator left right => rfl

theorem ofCondition_withRows (condition : Option Expression) :
    BoundExpression.ofCondition ⟨columns, rows⟩ condition = BoundExpression.ofCondition ⟨columns, rows'⟩ condition := by
  cases condition with
  | none => rfl
  | some e => rw [BoundExpression.ofCondition, BoundExpression.ofCondition, ofExpression_withRows columns rows rows']

theorem projections_withRows (position : Nat) (items : List SelectItem) :
    Table.projections ⟨columns, rows⟩ position items = Table.projections ⟨columns, rows'⟩ position items := by
  induction items generalizing position with
  | nil => rfl
  | cons item items ih =>
    cases item with
    | star token =>
      rw [Table.projections, Table.projections, ih]
      rfl
    | expression e columnAlias =>
      rw [Table.projections, Table.projections, ofExpression_withRows columns rows rows']
      simp only [ih]

theorem bindAssignments_withRows (assigned : List Nat) (assignments : List Assignment) :
    Table.bindAssignments ⟨columns, rows⟩ assigned assignments =
      Table.bindAssignments ⟨columns, rows'⟩ assigned assignments := by
  have hone (assigned : List Nat) (assignment : Assignment) :
      Table.bindAssignment ⟨columns, rows⟩ assigned assignment =
        Table.bindAssignment ⟨columns, rows'⟩ assigned assignment := by
    rw [Table.bindAssignment, Table.bindAssignment, ofExpression_withRows columns rows rows']
    rfl
  induction assignments generalizing assigned with
  | nil => rfl
  | cons assignment assignments ih =>
    rw [Table.bindAssignments_cons, Table.bindAssignments_cons, hone]
    simp only [ih]

end

/-! ### Statements -/

namespace Catalog

section

variable {catalog other : Catalog} (hsame : catalog.SameSchema other)

include hsame

theorem isSome_table?_of_sameSchema (name : String) : (catalog.table? name).isSome = (other.table? name).isSome := by
  simpa using congrArg Option.isSome (hsame name)

theorem createTable_sharesErrors (kind : StatementError → Prop) (s : CreateTable) :
    SharesErrors kind (catalog.createTable s) (other.createTable s) := by
  rw [createTable, createTable, isSome_table?_of_sameSchema hsame]
  cases (other.table? s.name.text).isSome with
  | true => exact .refl _
  | false => exact .bind fun columns _ => .of_failsOnly (.ok _)

theorem dropTable_sharesErrors (kind : StatementError → Prop) (s : DropTable) :
    SharesErrors kind (catalog.dropTable s) (other.dropTable s) := by
  rw [dropTable, dropTable, isSome_table?_of_sameSchema hsame]
  cases (other.table? s.name.text).isSome with
  | true => exact .of_failsOnly (.ok _)
  | false => exact .refl _

/-- An INSERT looks at no rows but its own. -/
theorem insert_sharesErrors (kind : StatementError → Prop) (s : Insert) :
    SharesErrors kind (catalog.insert s) (other.insert s) :=
  .find hsame fun _ _ _ _ => .bind fun _ _ => .of_failsOnly (.ok _)

variable (hcatalog : catalog.WellFormed)

include hcatalog

theorem select_sharesErrors (s : Select) :
    SharesErrors StatementError.IsOverflow (catalog.select s) (other.select s) := by
  refine .find hsame fun columns rows rows' htable => ?_
  have hfit := (hcatalog.table htable).rows_fit
  rw [projections_withRows columns rows' rows, ofCondition_withRows columns rows' rows]
  refine .bind fun projections hprojections => .bind fun condition hcondition => ?_
  simp only [ofExpression_withRows columns rows' rows]
  refine .bind fun keys hkeys => .of_failsOnly ?_
  exact failsOnly_result hfit (fun row hrow => BoundExpression.failsOnly_admits hcondition (hfit row hrow))
    (sound_of_bindKeys hkeys) (Table.sound_of_projections hprojections)

theorem delete_sharesErrors (s : Delete) :
    SharesErrors StatementError.IsOverflow (catalog.delete s) (other.delete s) := by
  refine .find hsame fun columns rows rows' htable => ?_
  have hfit := (hcatalog.table htable).rows_fit
  rw [ofCondition_withRows columns rows' rows]
  refine .bind fun condition hcondition => .of_failsOnly ?_
  exact (FailsOnly.filterRows fun row hrow => (BoundExpression.failsOnly_admits hcondition (hfit row hrow)).map).map

theorem update_sharesErrors (s : Update) :
    SharesErrors (fun e => e.IsOverflow ∨ e.IsNullConstraint) (catalog.update s) (other.update s) := by
  refine .find hsame fun columns rows rows' htable => ?_
  have hfit := (hcatalog.table htable).rows_fit
  rw [bindAssignments_withRows columns rows' rows, ofCondition_withRows columns rows' rows]
  refine .bind fun targets htargets => .bind fun condition hcondition => .of_failsOnly ?_
  exact (FailsOnly.mapM fun row hrow =>
    Table.failsOnly_updatedRow? hcondition (Table.fits_of_bindAssignments htargets) (hfit row hrow)).map

theorem execute_sharesErrors (s : Statement) : SharesErrors s.IsDataError (catalog.execute s) (other.execute s) := by
  cases s with
  | create s => exact createTable_sharesErrors hsame _ s
  | drop s => exact dropTable_sharesErrors hsame _ s
  | insert s => exact insert_sharesErrors hsame _ s
  | select s => exact (select_sharesErrors hsame hcatalog s).map _ _
  | delete s => exact delete_sharesErrors hsame hcatalog s
  | update s => exact update_sharesErrors hsame hcatalog s

end

/-- A statement that a catalog of well-formed tables refuses is refused by every catalog with the same columns, and with
the same error, unless the error is one that depends on the rows. -/
theorem schema_errors_independent_of_rows {catalog other : Catalog} (hcatalog : catalog.WellFormed)
    (hsame : catalog.SameSchema other) {s : Statement} {e : StatementError} (hstatic : ¬s.IsDataError e)
    (herror : (catalog.step s).1 = .error e) : (other.step s).1 = .error e :=
  step_eq_error_iff.2 (execute_sharesErrors hsame hcatalog s e hstatic (step_eq_error_iff.1 herror))

/-- A condition that is a text is refused, whether or not there are rows that it could be tested on. -/
theorem schema_errors_independent_of_rows_of_text_condition :
    ((empty.put "t" ⟨[⟨"a", .text, false⟩], [[.text "x"]]⟩).step
        (.delete ⟨⟨.identifier "t", .start⟩, some (.term ⟨.identifier "a", .start⟩)⟩)).1 = .error .conditionNotBoolean ∧
      ((empty.put "t" ⟨[⟨"a", .text, false⟩], []⟩).step
        (.delete ⟨⟨.identifier "t", .start⟩, some (.term ⟨.identifier "a", .start⟩)⟩)).1 =
          .error .conditionNotBoolean := by
  have hfilled : (empty.put "t" ⟨[⟨"a", .text, false⟩], [[.text "x"]]⟩).WellFormed := by
    refine WellFormed.empty.put "t" ⟨by simp, by simp, ?_⟩
    simp [Column.Holds, Cell.type?]
  have hsame : (empty.put "t" ⟨[⟨"a", .text, false⟩], [[.text "x"]]⟩).SameSchema
      (empty.put "t" ⟨[⟨"a", .text, false⟩], []⟩) := by
    intro name
    rw [table?_put, table?_put]
    split <;> rfl
  have hrefused : ((empty.put "t" ⟨[⟨"a", .text, false⟩], [[.text "x"]]⟩).step
      (.delete ⟨⟨.identifier "t", .start⟩, some (.term ⟨.identifier "a", .start⟩)⟩)).1 =
        .error .conditionNotBoolean :=
    rfl
  exact ⟨hrefused, schema_errors_independent_of_rows hfilled hsame id hrefused⟩

end Catalog

end SqlShell
