import SqlShell.Proofs.Execution.Assignment
import SqlShell.Proofs.Execution.Schema
import SqlShell.Proofs.Execution.Soundness
import SqlShell.Proofs.Query.Select
/-!
# The rows that a condition picks

SELECT, DELETE and UPDATE each go through the rows in their own way: one collects the rows that it wants, one keeps those
that it does not want, and one makes new rows in their places. What a condition picks is nevertheless the same for all
of them, `Table.picks`, since a condition that can be bound has a truth value on every row of a well-formed table
(`admits_eq_ok_picks`). So the three statements fail alike, or the SELECT shows the rows that the DELETE takes away and
that the UPDATE changes (`Catalog.statements_agree_on_condition`).
-/

namespace SqlShell

/-! ### Two lists in one -/

/-- The last list is made of the other two, each of which stays in its order. -/
inductive Interleaves {α : Type} : List α → List α → List α → Prop
  | nil : Interleaves [] [] []
  | first {a : α} {as bs cs : List α} (h : Interleaves as bs cs) : Interleaves (a :: as) bs (a :: cs)
  | second {b : α} {as bs cs : List α} (h : Interleaves as bs cs) : Interleaves as (b :: bs) (b :: cs)

theorem Interleaves.length_eq {α : Type} {as bs cs : List α} (h : Interleaves as bs cs) :
    cs.length = as.length + bs.length := by
  induction h with
  | nil => rfl
  | first _ ih => simp only [List.length_cons, ih]; omega
  | second _ ih => simp only [List.length_cons, ih]; omega

/-- What passes a test and what does not. -/
theorem interleaves_filter {α : Type} (p : α → Bool) (as : List α) :
    Interleaves (as.filter p) (as.filter (!p ·)) as := by
  induction as with
  | nil => exact .nil
  | cons a as ih =>
    cases hp : p a with
    | true =>
      rw [List.filter_cons_of_pos hp, List.filter_cons_of_neg (by simp [hp])]
      exact .first ih
    | false =>
      rw [List.filter_cons_of_neg (by simp [hp]), List.filter_cons_of_pos (by simp [hp])]
      exact .second ih

/-! ### Conditions -/

variable {table : Table} {written : Option Expression} {condition : Option BoundExpression} {row : Row}

theorem admits_eq_ok_picks (hcondition : BoundExpression.ofCondition table written = .ok condition)
    (hrow : List.Forall₂ Column.Holds table.columns row) :
    BoundExpression.admits condition row = .ok (table.picks written row) := by
  obtain ⟨flag, hflag⟩ := BoundExpression.exists_admits hcondition hrow
  rw [hflag, Table.picks_of_admits hcondition hflag]

/-- Conditions are tested on a row without a look at the others. -/
theorem picks_withRows (columns : List Column) (rows rows' : List Row) (written : Option Expression) :
    Table.picks ⟨columns, rows⟩ written = Table.picks ⟨columns, rows'⟩ written := by
  have hvalue (e : Expression) (row : Row) : e.valueOn ⟨columns, rows⟩ row = e.valueOn ⟨columns, rows'⟩ row := by
    rw [Expression.valueOn, Expression.valueOn, ofExpression_withRows columns rows rows']
  funext row
  simp only [Table.picks, hvalue]

/-- A column can always be set to itself. -/
theorem bindAssignments_self (htable : table.WellFormed) {index : Nat} {column : Column}
    (hcolumn : table.columns[index]? = some column) {target value : Token} (htarget : target.text = column.name)
    (hvalue : value.kind = .identifier column.name) :
    table.bindAssignments [] [⟨target, .term value⟩] = .ok [(index, .ofColumn index column.type column.name)] := by
  have hposition : table.position? column.name = some index := Table.position?_name htable.names_nodup hcolumn
  have hbound : BoundExpression.ofExpression (some table) (.term value) =
      .ok (.ofColumn index column.type column.name) := by
    rw [BoundExpression.ofExpression, hvalue]
    exact BoundExpression.ofTerm_name htable.names_nodup hcolumn
  have haccept : column.accept (some column.type) = .ok () := by simp [Column.accept]
  have hof : Table.Target.Of table ⟨target, .term value⟩ (index, .ofColumn index column.type column.name) :=
    ⟨htarget ▸ hposition, hbound, column, hcolumn, fun found hfound => Option.some.inj hfound ▸ haccept⟩
  exact Table.bindAssignments_eq_ok.2 ⟨.cons hof .nil, by simp, by simp⟩

section Clauses

variable (htable : table.WellFormed) (hcondition : BoundExpression.ofCondition table written = .ok condition)

include htable hcondition

theorem filterRows_admits :
    filterRows (BoundExpression.admits condition) table.rows = .ok (table.rows.filter (table.picks written)) :=
  filterRows_of_forall fun row hrow => admits_eq_ok_picks hcondition (htable.rows_fit row hrow)

theorem filterRows_admits_not :
    filterRows (fun row => do return !(← BoundExpression.admits condition row)) table.rows =
      .ok (table.rows.filter (!table.picks written ·)) := by
  refine filterRows_of_forall fun row hrow => ?_
  rw [admits_eq_ok_picks hcondition (htable.rows_fit row hrow)]
  rfl

/-- A column that is set to its own value leaves the row as it was. -/
theorem updatedRow?_self {index : Nat} {column : Column} (hcolumn : table.columns[index]? = some column)
    (name : String) (hrow : row ∈ table.rows) :
    table.updatedRow? condition [(index, .ofColumn index column.type name)] row =
      .ok (Option.guard (table.picks written) row) := by
  have hfits := htable.rows_fit row hrow
  have hindex : index < row.length := htable.length_row hrow ▸ (List.getElem?_eq_some_iff.1 hcolumn).1
  have hvalue : (BoundExpression.ofColumn index column.type name).evaluate row = .ok row[index] := by
    simp [BoundExpression.evaluate, BoundExpression.ofColumn, BoundExpression.applyAll, Operand.value, hindex]
  have hassign : Table.assign row [(index, .ofColumn index column.type name)] row = .ok row := by
    have hset : row.set index row[index] = row := List.set_getElem_self hindex
    rw [Table.assign, hvalue]
    show (if index < row.length then Table.assign row [] (row.set index row[index]) else _) = _
    rw [if_pos hindex, hset]
    rfl
  have hadmits := admits_eq_ok_picks hcondition hfits
  refine Table.updatedRow?_eq_ok.2 ?_
  cases hpicked : table.picks written row with
  | false => exact .inl ⟨hpicked ▸ hadmits, by simp [Option.guard, hpicked]⟩
  | true =>
    refine .inr ⟨hpicked ▸ hadmits, row, hassign, (acceptRow_eq_ok hfits.length_eq.symm).2 hfits, ?_⟩
    simp [Option.guard, hpicked]

end Clauses

/-! ### Statements -/

/-- `SELECT * FROM table WHERE condition` -/
def Statement.selectAll (star table : Token) (condition : Option Expression) : Statement :=
  .select ⟨[.star star], table, none, condition, []⟩

/-- `DELETE FROM table WHERE condition` -/
def Statement.deleteFrom (table : Token) (condition : Option Expression) : Statement :=
  .delete ⟨table, condition⟩

/-- `UPDATE table SET target = value WHERE condition`, where the value is a single token -/
def Statement.setTo (table target value : Token) (condition : Option Expression) : Statement :=
  .update ⟨table, [⟨target, .term value⟩], condition⟩

/-- The headings of the columns of a table. -/
def Table.headings (table : Table) : List Heading :=
  table.columns.map fun column => ⟨column.name, column.type⟩

namespace Catalog

variable {catalog : Catalog} {name : Token}

section Bound

variable (htable : table.WellFormed) (hfound : catalog.table? name.text = some table)
  (hcondition : BoundExpression.ofCondition table written = .ok condition)

include htable hfound hcondition

/-- A star gives the rows as they are. -/
theorem step_selectAll (star : Token) :
    catalog.step (.selectAll star name written) =
      (.ok (.selected ⟨table.headings, table.rows.filter (table.picks written)⟩), catalog) := by
  have hproject : ∀ row ∈ table.rows.filter (table.picks written),
      (table.starProjections ++ []).mapM (fun projection : Projection => projection.2.evaluate row) = .ok (id row) := by
    intro row hrow
    have hlength := htable.length_row (List.mem_filter.1 hrow).1
    rw [List.append_nil]
    refine mapM_eq_ok.2 (List.forall₂_iff_get.2 ⟨by simp [Table.starProjections, hlength], fun index _ hindex => ?_⟩)
    have hindex' : index < row.length := hindex
    simp [Table.starProjections, BoundExpression.evaluate, BoundExpression.ofColumn, BoundExpression.applyAll,
      Operand.value, hindex']
  have hrows := mapM_eq_ok_map hproject
  rw [List.map_id] at hrows
  have hheadings : (table.starProjections ++ []).map (fun projection : Projection => projection.1) = table.headings := by
    refine List.ext_getElem (by simp [Table.starProjections, Table.headings]) fun index _ _ => ?_
    simp [Table.starProjections, Table.headings]
  have hselect : catalog.select ⟨[.star star], name, none, written, []⟩ =
      .ok ⟨table.headings, table.rows.filter (table.picks written)⟩ := by
    simp only [select, except_bind_eq_ok]
    refine ⟨table, find_eq_ok.2 hfound, table.starProjections ++ [], rfl, condition, hcondition, [], rfl, _,
      filterRows_admits htable hcondition, ?_⟩
    show ((_ : Except StatementError (List Row)) >>= fun rows => pure (ResultTable.mk _ rows)) = _
    rw [hrows, ← hheadings]
    rfl
  exact step_of_execute_eq_ok (by rw [Statement.selectAll, execute, hselect]; rfl)

theorem step_deleteFrom :
    catalog.step (.deleteFrom name written) =
      (.ok (.deleted (table.rows.filter (table.picks written)).length),
        catalog.put name.text { table with rows := table.rows.filter (!table.picks written ·) }) := by
  have hcount := (interleaves_filter (table.picks written) table.rows).length_eq
  refine step_of_execute_eq_ok (delete_eq_ok.2
    ⟨table, condition, _, hfound, hcondition, filterRows_admits_not htable hcondition, ?_⟩)
  rw [hcount, Nat.add_sub_cancel]

omit hfound in
/-- What a DELETE has left, the same DELETE leaves again. -/
theorem step_deleteFrom_again :
    let after := catalog.put name.text { table with rows := table.rows.filter (!table.picks written ·) }
    after.step (.deleteFrom name written) = (.ok (.deleted 0), after) := by
  intro after
  have hkept : Table.WellFormed { table with rows := table.rows.filter (!table.picks written ·) } :=
    htable.withRows fun row hrow => htable.rows_fit row (List.mem_filter.1 hrow).1
  rw [ofCondition_withRows table.columns table.rows (table.rows.filter (!table.picks written ·))] at hcondition
  have hpicks : Table.picks { table with rows := table.rows.filter (!table.picks written ·) } written =
      table.picks written :=
    picks_withRows table.columns _ table.rows written
  have hagain := step_deleteFrom hkept (table?_put_self : after.table? name.text = _) hcondition
  simpa [after, put_put, hpicks] using hagain

theorem step_setTo_self {index : Nat} {column : Column} (hcolumn : table.columns[index]? = some column)
    {target value : Token} (htarget : target.text = column.name) (hvalue : value.kind = .identifier column.name) :
    catalog.step (.setTo name target value written) =
      (.ok (.updated (table.rows.filter (table.picks written)).length), catalog) := by
  have hrows : List.Forall₂ (fun row new => table.updatedRow? condition
      [(index, .ofColumn index column.type column.name)] row = .ok new) table.rows
        (table.rows.map (Option.guard (table.picks written))) := by
    rw [List.forall₂_map_right_iff, List.forall₂_same]
    exact fun row hrow => updatedRow?_self htable hcondition hcolumn column.name hrow
  have hsame : table.rows.zipWith (fun row new => new.getD row) (table.rows.map (Option.guard (table.picks written))) =
      table.rows := by
    rw [List.zipWith_map_right, List.zipWith_self]
    refine (List.map_congr_left fun row _ => ?_).trans (List.map_id _)
    cases hpicked : table.picks written row <;> simp [Option.guard, hpicked]
  have hcount : (table.rows.map (Option.guard (table.picks written))).countP (·.isSome) =
      (table.rows.filter (table.picks written)).length := by
    simp only [List.countP_map, Function.comp_def, Option.isSome_guard, ← List.countP_eq_length_filter]
  refine step_of_execute_eq_ok (update_eq_ok.2
    ⟨table, _, condition, _, hfound, bindAssignments_self htable hcolumn htarget hvalue, hcondition, hrows, ?_⟩)
  rw [hsame, hcount, put_self hfound]

end Bound

/-- A condition that cannot be bound fails all three statements, whatever the rows are. -/
theorem steps_of_error (htable : table.WellFormed) (hfound : catalog.table? name.text = some table) {e : StatementError}
    (hcondition : BoundExpression.ofCondition table written = .error e) {index : Nat} {column : Column}
    (hcolumn : table.columns[index]? = some column) {target value : Token} (htarget : target.text = column.name)
    (hvalue : value.kind = .identifier column.name) (star : Token) :
    catalog.step (.selectAll star name written) = (.error e, catalog) ∧
      catalog.step (.deleteFrom name written) = (.error e, catalog) ∧
      catalog.step (.setTo name target value written) = (.error e, catalog) := by
  have hfind : catalog.find name.text = .ok table := find_eq_ok.2 hfound
  have hok {α β : Type} (a : α) (f : α → Except StatementError β) : Except.ok a >>= f = f a := rfl
  have hstar : table.projections 0 [.star star] = .ok (table.starProjections ++ []) := rfl
  refine ⟨step_of_execute_eq_error ?_, step_of_execute_eq_error ?_, step_of_execute_eq_error ?_⟩
  · simp only [Statement.selectAll, execute, select, hfind, hstar, hok, hcondition]
    rfl
  · simp only [Statement.deleteFrom, execute, delete, hfind, hok, hcondition]
    rfl
  · simp only [Statement.setTo, execute, update, hfind, bindAssignments_self htable hcolumn htarget hvalue, hok,
      hcondition]
    rfl

/-- SELECT, DELETE and UPDATE with the same condition fail with the same error, or none of them fails. Then the SELECT
shows the rows on which the condition is true, the DELETE leaves the others and counts those that the SELECT shows, and
an UPDATE that sets a column to itself counts them too and changes nothing. Once deleted, there is nothing more to
delete. -/
theorem statements_agree_on_condition {catalog : Catalog} (hcatalog : catalog.WellFormed) {name : Token} {table : Table}
    (hfound : catalog.table? name.text = some table) {column : Column} (hcolumn : column ∈ table.columns)
    {target value : Token} (htarget : target.text = column.name) (hvalue : value.kind = .identifier column.name)
    (star : Token) (condition : Option Expression) :
    (∃ e, catalog.step (.selectAll star name condition) = (.error e, catalog) ∧
      catalog.step (.deleteFrom name condition) = (.error e, catalog) ∧
      catalog.step (.setTo name target value condition) = (.error e, catalog)) ∨
    ∃ selected kept after,
      catalog.step (.selectAll star name condition) = (.ok (.selected ⟨table.headings, selected⟩), catalog) ∧
      catalog.step (.deleteFrom name condition) = (.ok (.deleted selected.length), after) ∧
      catalog.step (.setTo name target value condition) = (.ok (.updated selected.length), catalog) ∧
      selected = table.rows.filter (table.picks condition) ∧
      kept = table.rows.filter (!table.picks condition ·) ∧ Interleaves selected kept table.rows ∧
      after = catalog.put name.text { table with rows := kept } ∧
      after.step (.deleteFrom name condition) = (.ok (.deleted 0), after) := by
  have htable := hcatalog.table hfound
  obtain ⟨index, hindex⟩ := List.mem_iff_getElem?.1 hcolumn
  cases hcondition : BoundExpression.ofCondition table condition with
  | error e =>
    exact .inl ⟨e, steps_of_error htable hfound hcondition hindex htarget hvalue star⟩
  | ok bound =>
    exact .inr ⟨_, _, _, step_selectAll htable hfound hcondition star, step_deleteFrom htable hfound hcondition,
      step_setTo_self htable hfound hcondition hindex htarget hvalue, rfl, rfl, interleaves_filter _ _, rfl,
      step_deleteFrom_again htable hcondition⟩

/-- NOT is true where the column is false; a row with NULL is neither shown nor deleted. -/
theorem statements_agree_on_condition_of_null :
    let word (text : String) : Token := ⟨.identifier text, .start⟩
    let table (rows : List Row) : Table := ⟨[⟨"a", .int, false⟩, ⟨"b", .boolean, true⟩], rows⟩
    let full := table [[.int 1, .null], [.int 2, .boolean false], [.int 3, .boolean true]]
    let catalog := empty.put "t" full
    let after := empty.put "t" (table [[.int 1, .null], [.int 3, .boolean true]])
    let condition : Option Expression := some (.unary [⟨.keyword .not, .start⟩] (.term (word "b")))
    let star : Token := ⟨.symbol .asterisk, .start⟩
    catalog.WellFormed ∧
      catalog.step (.selectAll star (word "t") condition) =
        (.ok (.selected ⟨full.headings, [[.int 2, .boolean false]]⟩), catalog) ∧
      catalog.step (.deleteFrom (word "t") condition) = (.ok (.deleted 1), after) ∧
      catalog.step (.setTo (word "t") (word "a") (word "a") condition) = (.ok (.updated 1), catalog) ∧
      after.step (.deleteFrom (word "t") condition) = (.ok (.deleted 0), after) := by
  intro word table full catalog after condition star
  have hcatalog : catalog.WellFormed := WellFormed.empty.put "t"
    ⟨by simp [full, table], by simp [full, table], by simp [full, table, Column.Holds, Cell.type?]⟩
  have hfound : catalog.table? (word "t").text = some full := rfl
  have hcolumn : ⟨"a", .int, false⟩ ∈ full.columns := List.mem_cons_self
  have hpicked : full.rows.filter (full.picks condition) = [[.int 2, .boolean false]] := by decide +kernel
  have hleft : full.rows.filter (!full.picks condition ·) = [[.int 1, .null], [.int 3, .boolean true]] := by
    decide +kernel
  have hafter : catalog.put "t" (table [[.int 1, .null], [.int 3, .boolean true]]) = after := put_put
  have htarget : (word "a").text = "a" := rfl
  have hvalue : (word "a").kind = .identifier "a" := rfl
  rcases statements_agree_on_condition hcatalog hfound hcolumn htarget hvalue star condition with
    ⟨e, herror, -⟩ | ⟨selected, kept, last, hselect, hdelete, hset, hselected, hkept, -, hlast, hagain⟩
  · have hshown : (catalog.step (.selectAll star (word "t") condition)).1.toOption.isSome = true := by decide +kernel
    rw [herror] at hshown
    cases hshown
  · obtain rfl := hselected.trans hpicked
    obtain rfl := hkept.trans hleft
    obtain rfl := hlast.trans hafter
    exact ⟨hcatalog, hselect, hdelete, hset, hagain⟩

end Catalog

end SqlShell
