import SqlShell.Proofs.Execution.Typing
import SqlShell.Proofs.Execution.WellFormed
import SqlShell.Proofs.Query.Order
import SqlShell.Proofs.Query.Projection
import SqlShell.Proofs.Query.StableSort
/-!
# What a SELECT means

A SELECT whose expressions are bound (`BoundSelect`) keeps the rows on which its condition is true, arranges them by its
keys, and computes its columns on each. It fails only if a key or a column overflows on one of the rows that are kept.
This module says so, and that each clause of the executor gives what is said here where nothing overflows.
-/

namespace SqlShell

/-- The bound expressions of a SELECT. -/
structure BoundSelect where
  columns : List BoundExpression
  condition : Option BoundExpression
  keys : List Key

/-- The columns of the result. -/
def Select.resultColumns (s : Select) (table : Table) : List ResultColumn :=
  s.items.flatMap (·.expand table)

/-- All expressions of the SELECT can be bound to the columns of the table. -/
structure Select.Resolves (s : Select) (table : Table) : Prop where
  items : ∀ e columnAlias, .expression e columnAlias ∈ s.items →
    ∃ b, BoundExpression.ofExpression (some table) e = .ok b
  condition : ∃ condition, BoundExpression.ofCondition table s.condition = .ok condition
  order : ∀ written ∈ s.order, ∃ b, BoundExpression.ofExpression (some table) written.expression = .ok b

/-- The sort key is bound to an expression of the table, in the direction that is written. -/
def SortKey.BindsTo (table : Table) (written : SortKey) (key : Key) : Prop :=
  BoundExpression.ofExpression (some table) written.expression = .ok key.1 ∧ key.2 = written.descending

/-- The expressions that those of the SELECT are bound to. There is one for each column of the result. -/
structure Select.BindsTo (s : Select) (table : Table) (bound : BoundSelect) : Prop where
  columns : List.Forall₂ (ResultColumn.BindsTo table) (s.resultColumns table) bound.columns
  condition : BoundExpression.ofCondition table s.condition = .ok bound.condition
  keys : List.Forall₂ (SortKey.BindsTo table) s.order bound.keys

theorem Select.BindsTo.unique {s : Select} {table : Table} {bound other : BoundSelect} (h : s.BindsTo table bound)
    (h' : s.BindsTo table other) : other = bound := by
  obtain ⟨columns, condition, keys⟩ := other
  obtain rfl : columns = bound.columns :=
    List.right_unique_forall₂' (fun _ _ _ hb hc => Except.ok.inj (hb.symm.trans hc)) h'.columns h.columns
  obtain rfl : condition = bound.condition := Except.ok.inj (h'.condition.symm.trans h.condition)
  obtain rfl : keys = bound.keys := by
    refine List.right_unique_forall₂' (fun _ _ _ hb hc => ?_) h'.keys h.keys
    exact Prod.ext (Except.ok.inj (hb.1.symm.trans hc.1)) (hb.2.trans hc.2.symm)
  rfl

namespace BoundSelect

/-- The rows on which the condition is true, in the order of the table. -/
def matching (bound : BoundSelect) (rows : List Row) : List Row :=
  rows.filter fun row => bound.condition.all (·.value row == .boolean true)

/-- A key or a column overflows on the row. -/
def Overflows (bound : BoundSelect) (row : Row) : Prop :=
  (∃ key ∈ bound.keys, key.1.Overflows row) ∨ ∃ column ∈ bound.columns, column.Overflows row

/-- The values that the row is sorted by. -/
def keyValues (bound : BoundSelect) (row : Row) : List Cell :=
  bound.keys.map (·.1.value row)

/-- `ordered` has the rows in the order of their keys, and rows with equal keys in the order in which they were. -/
def Arranges (bound : BoundSelect) (rows ordered : List Row) : Prop :=
  StablySorted bound.keyValues (KeysBefore (bound.keys.map (·.2))) rows ordered

/-- The row of the result. -/
def project (bound : BoundSelect) (row : Row) : Row :=
  bound.columns.map (·.value row)

/-- The headings of the result, which has these columns. -/
def headings (bound : BoundSelect) (columns : List ResultColumn) : List Heading :=
  (columns.zip bound.columns).zipIdx.map fun ((column, expression), position) => column.heading position expression

theorem Arranges.unique {bound : BoundSelect} {rows ordered other : List Row} (h : bound.Arranges rows ordered)
    (h' : bound.Arranges rows other) : other = ordered :=
  StablySorted.unique (fun _ _ => KeysBefore.asymm) h h'

end BoundSelect

/-- The cell may stand under the heading. -/
def Heading.Holds (heading : Heading) (cell : Cell) : Prop :=
  cell.IsOf (some heading.type)

/-! ### Bound expressions are sound -/

/-- A star can always be bound, so it is enough that the written expressions can. -/
theorem Select.Resolves.exists_bindsTo {s : Select} {table : Table} (h : s.Resolves table)
    (hnodup : (table.columns.map (·.name)).Nodup) : ∃ bound, s.BindsTo table bound := by
  have hcolumn : ∀ column ∈ s.resultColumns table, ∃ b, column.BindsTo table b := by
    intro column hmem
    obtain ⟨item, hitem, hexpand⟩ := List.mem_flatMap.1 hmem
    cases item with
    | star token =>
      obtain ⟨b, -, hb⟩ := exists_of_forall₂_of_mem (Table.bindsTo_star hnodup token).flip hexpand
      exact ⟨b, hb⟩
    | expression e columnAlias =>
      obtain rfl := List.mem_singleton.1 hexpand
      exact h.items e columnAlias hitem
  have hkey : ∀ written ∈ s.order, ∃ key, written.BindsTo table key := by
    intro written hwritten
    obtain ⟨b, hb⟩ := h.order written hwritten
    exact ⟨(b, written.descending), hb, rfl⟩
  obtain ⟨columns, hcolumns⟩ := exists_forall₂ hcolumn
  obtain ⟨condition, hcondition⟩ := h.condition
  obtain ⟨keys, hkeys⟩ := exists_forall₂ hkey
  exact ⟨⟨columns, condition, keys⟩, hcolumns, hcondition, hkeys⟩

/-- All expressions are sound, and the condition is no int. -/
structure BoundSelect.Sound (bound : BoundSelect) (table : Table) : Prop where
  columns : ∀ column ∈ bound.columns, column.Sound table.columns
  condition : ∀ condition, bound.condition = some condition → condition.Sound table.columns ∧ condition.type ≠ some .int
  keys : ∀ key ∈ bound.keys, key.1.Sound table.columns

theorem Select.BindsTo.sound {s : Select} {table : Table} {bound : BoundSelect} (h : s.BindsTo table bound) :
    bound.Sound table where
  columns column hmem := by
    obtain ⟨written, -, hcolumn⟩ := exists_of_forall₂_of_mem h.columns hmem
    exact BoundExpression.sound_of_ofExpression hcolumn
  condition condition hsome := sound_of_ofCondition (hsome ▸ h.condition)
  keys key hmem := by
    obtain ⟨written, -, hkey, -⟩ := exists_of_forall₂_of_mem h.keys hmem
    exact BoundExpression.sound_of_ofExpression hkey

/-! ### Clauses -/

theorem filterRows_of_forall {test : Row → Except StatementError Bool} {p : Row → Bool} {rows : List Row}
    (h : ∀ row ∈ rows, test row = .ok (p row)) : filterRows test rows = .ok (rows.filter p) := by
  induction rows with
  | nil => rfl
  | cons row rows ih =>
    rw [filterRows, h row List.mem_cons_self, ih fun other hother => h other (List.mem_cons_of_mem _ hother)]
    by_cases hrow : p row = true
    · rw [List.filter_cons_of_pos hrow]
      show Except.ok (if p row = true then _ else _) = _
      rw [if_pos hrow]
    · rw [List.filter_cons_of_neg hrow]
      show Except.ok (if p row = true then _ else _) = _
      rw [if_neg hrow]

theorem BoundSelect.Sound.filterRows {bound : BoundSelect} {table : Table} (h : bound.Sound table) {rows : List Row}
    (hrows : ∀ row ∈ rows, List.Forall₂ Column.Holds table.columns row) :
    SqlShell.filterRows (BoundExpression.admits bound.condition) rows = .ok (bound.matching rows) := by
  refine filterRows_of_forall fun row hrow => ?_
  cases hcondition : bound.condition with
  | none => rfl
  | some expression =>
    obtain ⟨hsound, htype⟩ := h.condition expression hcondition
    have hvalue := hsound.evaluate_eq_ok (hrows row hrow) (hsound.not_overflows htype (hrows row hrow))
    rw [BoundExpression.admits, hvalue]
    rfl

section Rows

variable {columns : List Column} {rows : List Row}

theorem mapM_evaluate_eq_ok {expressions : List BoundExpression} {row : Row} (h : ∀ e ∈ expressions, e.Sound columns)
    (hrow : List.Forall₂ Column.Holds columns row) (hfine : ¬∃ e ∈ expressions, e.Overflows row) :
    expressions.mapM (·.evaluate row) = .ok (expressions.map (·.value row)) :=
  mapM_eq_ok_map fun e he => (h e he).evaluate_eq_ok hrow fun hoverflow => hfine ⟨e, he, hoverflow⟩

theorem mapM_evaluate_eq_error {expressions : List BoundExpression} {row : Row} (h : ∀ e ∈ expressions, e.Sound columns)
    (hrow : List.Forall₂ Column.Holds columns row) (hoverflow : ∃ e ∈ expressions, e.Overflows row) :
    expressions.mapM (·.evaluate row) = .error (.negationOverflow Int64.minValue) :=
  mapM_eq_error (fun e he => (h e he row hrow).imp (fun ⟨cell, hcell, _⟩ => ⟨cell, hcell⟩) (·.2)) hoverflow

/-- Whatever is made of the values of the expressions, it fails just where one of them overflows on a row. -/
theorem mapM_rows_eq_error {α : Type} (expressions : List BoundExpression) (make : Row → List Cell → α)
    (h : ∀ e ∈ expressions, e.Sound columns) (hrows : ∀ row ∈ rows, List.Forall₂ Column.Holds columns row)
    (hoverflow : ∃ row ∈ rows, ∃ e ∈ expressions, e.Overflows row) :
    rows.mapM (fun row => (do return make row (← expressions.mapM (·.evaluate row)) : Except StatementError α)) =
      .error (.negationOverflow Int64.minValue) := by
  have herror (row : Row) (hrow : row ∈ rows) (hfails : ∃ e ∈ expressions, e.Overflows row) :
      (do return make row (← expressions.mapM (·.evaluate row)) : Except StatementError α) =
        .error (.negationOverflow Int64.minValue) := by
    rw [mapM_evaluate_eq_error h (hrows row hrow) hfails]
    rfl
  refine mapM_eq_error (fun row hrow => ?_) ?_
  · by_cases hfails : ∃ e ∈ expressions, e.Overflows row
    · exact .inr (herror row hrow hfails)
    · refine .inl ⟨make row (expressions.map (·.value row)), ?_⟩
      rw [mapM_evaluate_eq_ok h (hrows row hrow) hfails]
      rfl
  · obtain ⟨row, hrow, hfails⟩ := hoverflow
    exact ⟨row, hrow, herror row hrow hfails⟩

theorem mapM_rows_eq_ok {α : Type} (expressions : List BoundExpression) (make : Row → List Cell → α)
    (h : ∀ e ∈ expressions, e.Sound columns) (hrows : ∀ row ∈ rows, List.Forall₂ Column.Holds columns row)
    (hfine : ¬∃ row ∈ rows, ∃ e ∈ expressions, e.Overflows row) :
    rows.mapM (fun row => (do return make row (← expressions.mapM (·.evaluate row)) : Except StatementError α)) =
      .ok (rows.map fun row => make row (expressions.map (·.value row))) := by
  refine mapM_eq_ok_map fun row hrow => ?_
  rw [mapM_evaluate_eq_ok h (hrows row hrow) fun hoverflow => hfine ⟨row, hrow, hoverflow⟩]
  rfl

end Rows

end SqlShell
