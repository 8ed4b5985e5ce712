import SqlShell.Proofs.Execution.Failures
/-!
# Evaluation of bound expressions

Once an expression is bound, the types of its operands are settled. On a row of the table it gives NULL, or a value of
the type that was found when it was bound, or it negates the least int; the check of the operand's type that comes with
every operator never fails again. A condition is no int, so it has a truth value on every row, and a DELETE whose
condition can be bound succeeds.
-/

namespace SqlShell

/-- What the evaluation of a bound expression on a row can come to. -/
structure BoundExpression.EvaluatesSafely (bound : BoundExpression) (row : Row) : Prop where
  result : bound.evaluate row = .ok .null ∨
    (∃ type cell, bound.type = some type ∧ cell.type? = some type ∧ bound.evaluate row = .ok cell) ∨
    bound.evaluate row = .error (.negationOverflow Int64.minValue)
  applicable : ∀ operator cell, bound.evaluate row ≠ .error (.invalidExpression (.cannotApply operator cell))
  null_of_untyped : bound.type = none → bound.evaluate row = .ok .null
  total : bound.type = some .boolean ∨ bound.type = some .text → ∃ cell, bound.evaluate row = .ok cell

namespace BoundExpression

variable {columns : List Column} {bound : BoundExpression} {row : Row}

/-- Only an int can fail, and only by overflow. -/
theorem Sound.evaluate_eq_ok_of_type_ne (h : bound.Sound columns) (hrow : List.Forall₂ Column.Holds columns row)
    (htype : bound.type ≠ some .int) : ∃ cell, bound.evaluate row = .ok cell ∧ cell.IsOf bound.type :=
  (h row hrow).resolve_right fun hint => htype hint.1

theorem Sound.evaluatesSafely (h : bound.Sound columns) (hrow : List.Forall₂ Column.Holds columns row) :
    bound.EvaluatesSafely row where
  result := by
    rcases h row hrow with ⟨cell, hcell, rfl | htype⟩ | ⟨-, hoverflow⟩
    · exact .inl hcell
    · cases hbound : bound.type with
      | none =>
        rw [hbound, Cell.type?_eq_none] at htype
        exact .inl (htype ▸ hcell)
      | some type => exact .inr (.inl ⟨type, cell, rfl, htype.trans hbound, hcell⟩)
    · exact .inr (.inr hoverflow)
  applicable operator cell happly := by
    have hoverflow : (StatementError.invalidExpression (.cannotApply operator cell)).IsOverflow :=
      h.failsOnly_evaluate hrow _ happly
    exact hoverflow
  null_of_untyped hnone := by
    obtain ⟨cell, hcell, hisOf⟩ := h.evaluate_eq_ok_of_type_ne hrow (by simp [hnone])
    rw [hnone] at hisOf
    obtain rfl := hisOf.elim id Cell.type?_eq_none.1
    exact hcell
  total htype := by
    obtain ⟨cell, hcell, -⟩ := h.evaluate_eq_ok_of_type_ne hrow (by rcases htype with h | h <;> simp [h])
    exact ⟨cell, hcell⟩

/-- A condition that is bound has a truth value on every row. -/
theorem exists_admits {table : Table} {condition : Option Expression} {bound : Option BoundExpression}
    (h : ofCondition table condition = .ok bound) (hrow : List.Forall₂ Column.Holds table.columns row) :
    ∃ flag, admits bound row = .ok flag := by
  cases bound with
  | none => exact ⟨true, rfl⟩
  | some bound =>
    obtain ⟨hsound, htype⟩ := sound_of_ofCondition h
    obtain ⟨cell, hcell, -⟩ := hsound.evaluate_eq_ok_of_type_ne hrow htype
    refine ⟨cell == .boolean true, ?_⟩
    rw [admits, hcell]
    rfl

end BoundExpression

/-- A test that has an answer on every row picks out some of the rows. -/
theorem exists_filterRows {test : Row → Except StatementError Bool} {rows : List Row}
    (h : ∀ row ∈ rows, ∃ flag, test row = .ok flag) : ∃ kept, filterRows test rows = .ok kept := by
  obtain ⟨flags, hflags⟩ := exists_forall₂ h
  exact ⟨_, filterRows_eq_ok.2 ⟨flags, hflags, rfl⟩⟩

/-- A DELETE succeeds once its table is found and its condition is bound. -/
theorem Catalog.exists_step_delete {catalog : Catalog} {s : Delete} {table : Table} (htable : table.WellFormed)
    (hfound : catalog.table? s.table.text = some table) {condition : Option BoundExpression}
    (hcondition : BoundExpression.ofCondition table s.condition = .ok condition) :
    ∃ count after, catalog.step (.delete s) = (.ok (.deleted count), after) := by
  have htest : ∀ row ∈ table.rows,
      ∃ flag, (do return !(← BoundExpression.admits condition row) : Except StatementError Bool) = .ok flag := by
    intro row hrow
    obtain ⟨flag, hflag⟩ := BoundExpression.exists_admits hcondition (htable.rows_fit row hrow)
    refine ⟨!flag, ?_⟩
    rw [hflag]
    rfl
  obtain ⟨kept, hkept⟩ := exists_filterRows htest
  exact ⟨_, _, step_of_execute_eq_ok (delete_eq_ok.2 ⟨table, condition, kept, hfound, hcondition, hkept, rfl⟩)⟩

/-- Expressions that are bound to the columns of a well-formed table evaluate safely on its rows, and those that are bound
without a table evaluate safely on the empty row. So conditions have truth values, and a DELETE can only fail before it
looks at the first row. -/
theorem binding_is_sound {table : Table} (htable : table.WellFormed) :
    (∀ e bound, BoundExpression.ofExpression (some table) e = .ok bound →
      ∀ row ∈ table.rows, bound.EvaluatesSafely row) ∧
    (∀ e bound, BoundExpression.ofExpression none e = .ok bound → bound.EvaluatesSafely []) ∧
    (∀ condition bound, BoundExpression.ofCondition table condition = .ok bound →
      ∀ row ∈ table.rows, ∃ flag, BoundExpression.admits bound row = .ok flag) ∧
    (∀ (catalog : Catalog) (s : Delete) (bound : Option BoundExpression), catalog.table? s.table.text = some table →
      BoundExpression.ofCondition table s.condition = .ok bound →
      ∃ count after, catalog.step (.delete s) = (.ok (.deleted count), after)) ∧
    (StatementError.negationOverflow Int64.minValue).message = "integer overflow negating -9223372036854775808" := by
  refine ⟨fun e bound hbound row hrow => ?_, fun e bound hbound => ?_, fun condition bound hbound row hrow => ?_,
    fun catalog s bound hfound hbound => ?_, rfl⟩
  · exact (BoundExpression.sound_of_ofExpression hbound).evaluatesSafely (htable.rows_fit row hrow)
  · exact (BoundExpression.sound_in_scope hbound).evaluatesSafely .nil
  · exact BoundExpression.exists_admits hbound (htable.rows_fit row hrow)
  · exact Catalog.exists_step_delete htable hfound hbound

/-- Both rows are safe for a negated int column: on one it overflows, and on the other it is NULL. -/
theorem binding_is_sound_of_least_int :
    let table : Table := ⟨[⟨"a", .int, true⟩], [[.int Int64.minValue], [.null]]⟩
    let bound : BoundExpression := ⟨.column 0, [.negate], some .int, none⟩
    table.WellFormed ∧
      BoundExpression.ofExpression (some table) (.unary [⟨.symbol .minus, .start⟩] (.term ⟨.identifier "a", .start⟩)) =
        .ok bound ∧
      bound.evaluate [.int Int64.minValue] = .error (.negationOverflow Int64.minValue) ∧
      bound.EvaluatesSafely [.int Int64.minValue] ∧ bound.EvaluatesSafely [.null] := by
  intro table bound
  have htable : table.WellFormed := ⟨by simp [table], by simp [table], by simp [table, Column.Holds, Cell.type?]⟩
  have hbound : BoundExpression.ofExpression (some table)
      (.unary [⟨.symbol .minus, .start⟩] (.term ⟨.identifier "a", .start⟩)) = .ok bound := rfl
  have hsafe := (binding_is_sound htable).1 _ _ hbound
  exact ⟨htable, hbound, rfl, hsafe _ (by simp [table]), hsafe _ (by simp [table])⟩

end SqlShell
