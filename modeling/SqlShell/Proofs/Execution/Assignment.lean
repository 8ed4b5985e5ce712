import Mathlib.Data.List.Perm.Basic
import SqlShell.Proofs.Execution.Failures
/-!
# Simultaneous assignment

The assignments of an UPDATE are worked through one after another, but all of them take their values from the row as it
was. No column is assigned twice, so the new row is known from what stands at each of its positions
(`Table.assign_eq_ok`), and this does not depend on the order of the assignments. An UPDATE thus sets all columns at
once (`Catalog.update_assigns_at_once`): columns can change places, and the assignments can be written in any order.
-/

namespace SqlShell

/-- The value of an expression on a row of a table. -/
def Expression.valueOn (e : Expression) (table : Table) (row : Row) : Except StatementError Cell := do
  (← BoundExpression.ofExpression (some table) e).evaluate row

namespace Table

/-- Whether a WHERE picks the row: its condition is true on it, or there is none. -/
def picks (table : Table) (condition : Option Expression) (row : Row) : Bool :=
  condition.all fun e => e.valueOn table row = .ok (.boolean true)

/-- `new` is `old` with every assigned column set to the value that its right-hand side has on `old`. -/
structure Assigns (table : Table) (assignments : List Assignment) (old new : Row) : Prop where
  length_eq : new.length = old.length
  assigned : ∀ (index : Nat) (column : Column), table.columns[index]? = some column →
    ∀ assignment ∈ assignments, assignment.column.text = column.name →
      ∃ cell, assignment.value.valueOn table old = .ok cell ∧ new[index]? = some cell
  kept : ∀ (index : Nat) (column : Column), table.columns[index]? = some column →
    (∀ assignment ∈ assignments, assignment.column.text ≠ column.name) → new[index]? = old[index]?

/-! ### Rows -/

/-- `updated` is `row` with the values on `old` at the positions of the targets. -/
structure Sets (old : Row) (targets : List Target) (row updated : Row) : Prop where
  length_eq : updated.length = row.length
  target : ∀ target ∈ targets, ∃ cell, target.2.evaluate old = .ok cell ∧ updated[target.1]? = some cell
  other : ∀ index, index ∉ targets.map (·.1) → updated[index]? = row[index]?

theorem Sets.perm {old row updated : Row} {targets targets' : List Target} (h : Sets old targets row updated)
    (hperm : targets.Perm targets') : Sets old targets' row updated where
  length_eq := h.length_eq
  target target htarget := h.target target (hperm.mem_iff.2 htarget)
  other index hindex := h.other index fun hmem => hindex ((hperm.map _).mem_iff.1 hmem)

theorem sets_nil {old row updated : Row} : Sets old [] row updated ↔ updated = row := by
  constructor
  · intro h
    exact List.ext_getElem? fun index => h.other index List.not_mem_nil
  · rintro rfl
    exact ⟨rfl, by simp, fun index _ => rfl⟩

/-- A position that is not set again keeps the value that it is set to. -/
theorem sets_cons {old row updated : Row} {index : Nat} {value : BoundExpression} {targets : List Target}
    (hfresh : index ∉ targets.map (·.1)) :
    Sets old ((index, value) :: targets) row updated ↔
      ∃ cell, value.evaluate old = .ok cell ∧ index < row.length ∧ Sets old targets (row.set index cell) updated := by
  constructor
  · intro h
    obtain ⟨cell, hcell, hset⟩ := h.target (index, value) List.mem_cons_self
    have hindex : index < row.length := by
      obtain ⟨hlt, -⟩ := List.getElem?_eq_some_iff.1 hset
      rwa [h.length_eq] at hlt
    refine ⟨cell, hcell, hindex, h.length_eq.trans (List.length_set ..).symm, fun target htarget => ?_, ?_⟩
    · exact h.target target (List.mem_cons_of_mem _ htarget)
    · intro other hother
      by_cases heq : other = index
      · rw [heq, List.getElem?_set_self hindex]
        exact hset
      · rw [List.getElem?_set_ne (Ne.symm heq)]
        exact h.other other (by simp [heq, hother])
  · rintro ⟨cell, hcell, hindex, h⟩
    refine ⟨h.length_eq.trans (List.length_set ..), fun target htarget => ?_, fun other hother => ?_⟩
    · rcases List.mem_cons.1 htarget with rfl | htarget
      · exact ⟨cell, hcell, (h.other index hfresh).trans (List.getElem?_set_self hindex)⟩
      · exact h.target target htarget
    · rw [List.map_cons, List.mem_cons, not_or] at hother
      exact (h.other other hother.2).trans (List.getElem?_set_ne (Ne.symm hother.1))

/-- Assignments to distinct positions give the row that has their values there. -/
theorem assign_eq_ok {old row updated : Row} {targets : List Target} (hnodup : (targets.map (·.1)).Nodup) :
    assign old targets row = .ok updated ↔ Sets old targets row updated := by
  induction targets generalizing row with
  | nil => rw [sets_nil, assign, Except.ok.injEq, eq_comm]
  | cons target targets ih =>
    obtain ⟨index, value⟩ := target
    obtain ⟨hfresh, hrest⟩ := List.nodup_cons.1 hnodup
    rw [sets_cons hfresh, assign, except_bind_eq_ok]
    refine exists_congr fun cell => and_congr_right fun _ => ?_
    by_cases hindex : index < row.length
    · rw [if_pos hindex, ih hrest, and_iff_right hindex]
    · simp [hindex]

/-! ### Assignments and targets -/

variable {table : Table} {condition : Option BoundExpression} {targets targets' : List Target} {row : Row}

/-- The target of an assignment is the column of that name. -/
theorem Target.Of.name_eq {assignment : Assignment} {target : Target} (h : Target.Of table assignment target)
    {column : Column} (hcolumn : table.columns[target.1]? = some column) : assignment.column.text = column.name := by
  obtain ⟨hindex, hname, -⟩ := List.findIdx?_eq_some_iff_getElem.1 h.position
  obtain ⟨-, rfl⟩ := List.getElem?_eq_some_iff.1 hcolumn
  exact (of_decide_eq_true hname).symm

theorem Sets.assigns (hnodup : (table.columns.map (·.name)).Nodup) {assignments : List Assignment} {old new : Row}
    (htargets : List.Forall₂ (Target.Of table) assignments targets) (h : Sets old targets old new) :
    table.Assigns assignments old new where
  length_eq := h.length_eq
  assigned index column hcolumn assignment hmem hname := by
    obtain ⟨target, htarget, hof⟩ := exists_of_forall₂_of_mem htargets.flip hmem
    obtain ⟨cell, hcell, hset⟩ := h.target target htarget
    have hindex : some index = some target.1 :=
      (position?_name hnodup hcolumn).symm.trans (hname ▸ hof.position)
    obtain rfl := Option.some.inj hindex
    exact ⟨cell, by rw [Expression.valueOn, hof.value]; exact hcell, hset⟩
  kept index column hcolumn hnone := by
    refine h.other index fun hmem => ?_
    obtain ⟨target, htarget, rfl⟩ := List.mem_map.1 hmem
    obtain ⟨assignment, hassignment, hof⟩ := exists_of_forall₂_of_mem htargets htarget
    exact hnone assignment hassignment (hof.name_eq hcolumn)

theorem bindAssignments_perm {assignments assignments' : List Assignment} (hperm : assignments.Perm assignments')
    (h : table.bindAssignments [] assignments = .ok targets) :
    ∃ targets', table.bindAssignments [] assignments' = .ok targets' ∧ targets.Perm targets' := by
  obtain ⟨hall, hnodup, -⟩ := bindAssignments_eq_ok.1 h
  obtain ⟨targets', hall', hperm'⟩ := List.perm_comp_forall₂ hperm.symm hall
  refine ⟨targets', bindAssignments_eq_ok.2 ⟨hall', ?_, by simp⟩, hperm'.symm⟩
  exact (hperm'.map _).nodup_iff.2 hnodup

theorem updatedRow?_perm (hperm : targets.Perm targets') (hnodup : (targets.map (·.1)).Nodup) {new : Option Row}
    (h : table.updatedRow? condition targets row = .ok new) : table.updatedRow? condition targets' row = .ok new := by
  have hnodup' : (targets'.map (·.1)).Nodup := (hperm.map _).nodup_iff.1 hnodup
  refine updatedRow?_eq_ok.2 ((updatedRow?_eq_ok.1 h).imp id ?_)
  rintro ⟨hadmits, updated, hassign, haccept, rfl⟩
  exact ⟨hadmits, updated, (assign_eq_ok hnodup').2 (((assign_eq_ok hnodup).1 hassign).perm hperm), haccept, rfl⟩

/-! ### Conditions -/

theorem picks_of_admits {written : Option Expression} (hbound : BoundExpression.ofCondition table written = .ok condition)
    {flag : Bool} (h : BoundExpression.admits condition row = .ok flag) : table.picks written row = flag := by
  cases written with
  | none =>
    obtain rfl := Except.ok.inj hbound
    exact Except.ok.inj h
  | some e =>
    obtain ⟨bound, he, hbound⟩ := except_bind_eq_ok.1 hbound
    split at hbound
    · obtain rfl := except_pure_eq_ok.1 hbound
      obtain ⟨cell, hcell, hflag⟩ := except_bind_eq_ok.1 h
      obtain rfl := except_pure_eq_ok.1 hflag
      have hvalue : e.valueOn table row = .ok cell := by rw [Expression.valueOn, he]; exact hcell
      simp only [picks, Option.all_some, hvalue, Except.ok.injEq]
      rfl
    · simp at hbound

/-- An UPDATE makes a new row just of those that its condition picks. -/
theorem isSome_of_updatedRow? {written : Option Expression}
    (hbound : BoundExpression.ofCondition table written = .ok condition) {new : Option Row}
    (h : table.updatedRow? condition targets row = .ok new) : table.picks written row = new.isSome := by
  rcases updatedRow?_eq_ok.1 h with ⟨hadmits, rfl⟩ | ⟨hadmits, updated, -, -, rfl⟩
  · exact picks_of_admits hbound hadmits
  · exact picks_of_admits hbound hadmits

end Table

/-! ### The whole statement -/

namespace Catalog

theorem update_perm {catalog : Catalog} {s : Update} {assignments : List Assignment}
    (hperm : s.assignments.Perm assignments) {result : Outcome × Catalog} (h : catalog.update s = .ok result) :
    catalog.update { s with assignments } = .ok result := by
  obtain ⟨table, targets, condition, updated, htable, htargets, hcondition, hupdated, rfl⟩ := update_eq_ok.1 h
  obtain ⟨targets', htargets', hperm'⟩ := Table.bindAssignments_perm hperm htargets
  have hnodup := (Table.bindAssignments_eq_ok.1 htargets).2.1
  refine update_eq_ok.2 ⟨table, targets', condition, updated, htable, htargets', hcondition, ?_, rfl⟩
  exact hupdated.imp fun row new hnew => Table.updatedRow?_perm hperm' hnodup hnew

/-- An UPDATE that succeeds sets all assigned columns at once in the rows that its condition picks, and leaves the other
rows, the order of the rows and the columns as they are. It reports the number of rows that were picked. In whatever
order the assignments are written, it does the same. -/
theorem update_assigns_at_once {catalog : Catalog} (hcatalog : catalog.WellFormed) (s : Update) :
    (∀ count after, catalog.step (.update s) = (.ok (.updated count), after) →
      ∃ table rows, catalog.table? s.table.text = some table ∧ after = catalog.put s.table.text { table with rows } ∧
        (∀ assignment ∈ s.assignments, ∃ column ∈ table.columns, column.name = assignment.column.text) ∧
        List.Forall₂ (fun old new =>
          if table.picks s.condition old then table.Assigns s.assignments old new else new = old) table.rows rows ∧
        count = table.rows.countP (table.picks s.condition)) ∧
      ∀ assignments, s.assignments.Perm assignments → ∀ count after,
        catalog.step (.update { s with assignments }) = (.ok (.updated count), after) ↔
          catalog.step (.update s) = (.ok (.updated count), after) := by
  refine ⟨fun count after hstep => ?_, fun assignments hperm count after => ?_⟩
  · obtain ⟨table, targets, condition, updated, htable, htargets, hcondition, hupdated, heq⟩ :=
      update_eq_ok.1 (step_eq_ok_iff.1 hstep)
    obtain ⟨houtcome, rfl⟩ := Prod.mk.inj heq
    obtain rfl := Outcome.updated.inj houtcome
    obtain ⟨hall, hnodup, -⟩ := Table.bindAssignments_eq_ok.1 htargets
    refine ⟨table, _, htable, rfl, fun assignment hassignment => ?_, forall₂_zipWith ?_, ?_⟩
    · obtain ⟨target, -, hof⟩ := exists_of_forall₂_of_mem hall.flip hassignment
      obtain ⟨column, hcolumn, -⟩ := hof.accepted
      exact ⟨column, List.mem_of_getElem? hcolumn, (hof.name_eq hcolumn).symm⟩
    · refine hupdated.imp fun row new hnew => ?_
      rw [Table.isSome_of_updatedRow? hcondition hnew]
      rcases Table.updatedRow?_eq_ok.1 hnew with ⟨-, rfl⟩ | ⟨-, updatedRow, hassign, -, rfl⟩
      · exact rfl
      · exact ((Table.assign_eq_ok hnodup).1 hassign).assigns (hcatalog.table htable).names_nodup hall
    · exact (countP_eq_of_forall₂ (hupdated.imp fun row new => Table.isSome_of_updatedRow? hcondition)).symm
  · rw [step_eq_ok_iff, step_eq_ok_iff]
    exact ⟨update_perm hperm.symm, update_perm hperm⟩

/-- Two columns change places in the row that is picked, whichever of them is assigned first. -/
theorem update_assigns_at_once_of_swap :
    let word (name : String) : Token := ⟨.identifier name, .start⟩
    let table (first : Row) : Table :=
      ⟨[⟨"a", .int, false⟩, ⟨"b", .int, false⟩, ⟨"c", .boolean, true⟩], [first, [.int 3, .int 4, .null]]⟩
    let swap : List Assignment := [⟨word "a", .term (word "b")⟩, ⟨word "b", .term (word "a")⟩]
    let s (assignments : List Assignment) : Update := ⟨word "t", assignments, some (.term (word "c"))⟩
    let catalog := empty.put "t" (table [.int 1, .int 2, .boolean true])
    let after := empty.put "t" (table [.int 2, .int 1, .boolean true])
    catalog.WellFormed ∧ catalog.step (.update (s swap)) = (.ok (.updated 1), after) ∧
      catalog.step (.update (s swap.reverse)) = (.ok (.updated 1), after) := by
  intro word table swap s catalog after
  have hcatalog : catalog.WellFormed :=
    WellFormed.empty.put "t" ⟨by simp [table], by simp [table], by simp [table, Column.Holds, Cell.type?]⟩
  have hswap : catalog.step (.update (s swap)) = (.ok (.updated 1), after) :=
    Prod.ext (by decide +kernel) (Catalog.ext (by decide +kernel))
  have hperm : swap.Perm swap.reverse := (List.reverse_perm swap).symm
  exact ⟨hcatalog, hswap, ((update_assigns_at_once hcatalog (s swap)).2 _ hperm 1 after).2 hswap⟩

end Catalog

end SqlShell
