import Mathlib.Algebra.GroupWithZero.Nat
import SqlShell.Proofs.Execution.Locality
/-!
# Counts of rows

What a statement reports says what it does to the number of rows of its table: `Outcome.Counts` has one clause for each
report, and no statement that succeeds breaks it (`Catalog.execute_counts`). Over a run from the empty catalog the
reports add up: a table has the rows that were inserted since it was made, less those that were deleted
(`Catalog.rows_accounted_for`). A CREATE TABLE starts the account of its table again, and a DROP TABLE closes it.
-/

namespace SqlShell

namespace Outcome

def insertedCount : Outcome → Nat
  | .inserted count => count
  | _ => 0

def deletedCount : Outcome → Nat
  | .deleted count => count
  | _ => 0

/-- What a report says about the number of rows before and after the statement. Without a table there is no number. -/
inductive Counts : Outcome → Option Nat → Option Nat → Prop
  | created : Counts .created none (some 0)
  | dropped (rows : Nat) : Counts .dropped (some rows) none
  | inserted (rows count : Nat) : Counts (.inserted count) (some rows) (some (rows + count))
  | selected (rows : Nat) (result : ResultTable) : Counts (.selected result) (some rows) (some rows)
  | deleted {rows count : Nat} (h : count ≤ rows) : Counts (.deleted count) (some rows) (some (rows - count))
  | updated {rows count : Nat} (h : count ≤ rows) : Counts (.updated count) (some rows) (some rows)

namespace Counts

variable {count : Nat} {before after : Option Nat}

theorem of_deleted (h : Counts (.deleted count) before after) : ∃ rows, before = some rows ∧ count ≤ rows := by
  cases h with
  | deleted hle => exact ⟨_, rfl, hle⟩

theorem of_updated (h : Counts (.updated count) before after) :
    after = before ∧ ∃ rows, before = some rows ∧ count ≤ rows := by
  cases h with
  | updated hle => exact ⟨rfl, _, rfl, hle⟩

end Counts

end Outcome

/-- The number of rows of the table of a name. -/
def Catalog.rowCount? (catalog : Catalog) (name : String) : Option Nat :=
  (catalog.table? name).map (·.rows.length)

/-- What a statement reports on a table, if it names the table and succeeds. -/
def reportOn? (name : String) (s : Statement) (outcome : Except StatementError Outcome) : Option Outcome :=
  if s.tableName = name then outcome.toOption else none

/-- What the statements of a run report on a table, in order. -/
def reportsOn (name : String) (statements : List Statement) (outcomes : List (Except StatementError Outcome)) :
    List Outcome :=
  (statements.zip outcomes).filterMap fun (s, outcome) => reportOn? name s outcome

/-! ### One statement -/

theorem length_le_of_filterRows {test : Row → Except StatementError Bool} {rows kept : List Row}
    (h : filterRows test rows = .ok kept) : kept.length ≤ rows.length := by
  obtain ⟨flags, hflags, rfl⟩ := filterRows_eq_ok.1 h
  calc (((rows.zip flags).filter (·.2)).map (·.1)).length
      = ((rows.zip flags).filter (·.2)).length := List.length_map _
    _ ≤ (rows.zip flags).length := List.length_filter_le _ _
    _ ≤ rows.length := List.length_zip ▸ Nat.min_le_left _ _

namespace Catalog

variable {catalog : Catalog} {name : String} {s : Statement}

theorem rowCount?_of_table? {table : Table} (h : catalog.table? name = some table) :
    catalog.rowCount? name = some table.rows.length := by
  rw [rowCount?, h, Option.map_some]

theorem rowCount?_put_self (table : Table) : (catalog.put name table).rowCount? name = some table.rows.length :=
  rowCount?_of_table? table?_put_self

theorem rowCount?_step_of_ne (catalog : Catalog) (h : name ≠ s.tableName) :
    (catalog.step s).2.rowCount? name = catalog.rowCount? name := by
  rw [rowCount?, table?_step_of_ne catalog h, rowCount?]

/-- A statement that succeeds does to the rows of its table what it reports. -/
theorem execute_counts {outcome : Outcome} {after : Catalog} (h : catalog.execute s = .ok (outcome, after)) :
    outcome.Counts (catalog.rowCount? s.tableName) (after.rowCount? s.tableName) := by
  cases s with
  | create s =>
    obtain ⟨hnone, columns, -, heq⟩ := createTable_eq_ok.1 h
    obtain ⟨rfl, rfl⟩ := Prod.mk.inj heq
    rw [Statement.tableName, rowCount?_put_self, rowCount?, hnone]
    exact .created
  | drop s =>
    obtain ⟨hsome, heq⟩ := dropTable_eq_ok.1 h
    obtain ⟨rfl, rfl⟩ := Prod.mk.inj heq
    obtain ⟨table, htable⟩ := Option.isSome_iff_exists.1 hsome
    rw [Statement.tableName, rowCount?_of_table? htable, rowCount?, table?_erase_self]
    exact .dropped _
  | insert s =>
    obtain ⟨table, rows, htable, -, heq⟩ := insert_eq_ok.1 h
    obtain ⟨rfl, rfl⟩ := Prod.mk.inj heq
    rw [Statement.tableName, rowCount?_of_table? htable, rowCount?_put_self, List.length_append]
    exact .inserted _ _
  | select s =>
    obtain ⟨result, hselect, heq⟩ := except_bind_eq_ok.1 h
    obtain ⟨rfl, rfl⟩ := Prod.mk.inj (except_pure_eq_ok.1 heq)
    obtain ⟨table, hfind, -⟩ := except_bind_eq_ok.1 hselect
    rw [Statement.tableName, rowCount?_of_table? (find_eq_ok.1 hfind)]
    exact .selected _ result
  | delete s =>
    obtain ⟨table, condition, kept, htable, -, hkept, heq⟩ := delete_eq_ok.1 h
    obtain ⟨rfl, rfl⟩ := Prod.mk.inj heq
    have hle := length_le_of_filterRows hkept
    have hleft : table.rows.length - (table.rows.length - kept.length) = kept.length := by omega
    have hcounts := Outcome.Counts.deleted (Nat.sub_le table.rows.length kept.length)
    rw [hleft] at hcounts
    rw [Statement.tableName, rowCount?_of_table? htable, rowCount?_put_self]
    exact hcounts
  | update s =>
    obtain ⟨table, targets, condition, updated, htable, -, -, hupdated, heq⟩ := update_eq_ok.1 h
    obtain ⟨rfl, rfl⟩ := Prod.mk.inj heq
    have hlength := hupdated.length_eq
    rw [Statement.tableName, rowCount?_of_table? htable, rowCount?_put_self, List.length_zipWith, ← hlength, Nat.min_self]
    exact .updated (hlength ▸ List.countP_le_length)

end Catalog

/-! ### The account of a table -/

/-- The reports account for the rows of a table: since it was made, as many rows were inserted as have been deleted or are
still there. Where there is no table, nothing has to be accounted for. -/
def Accounts (reports : List Outcome) : Option Nat → Prop
  | none => True
  | some rows => ∃ earlier since, reports = earlier ++ .created :: since ∧ .created ∉ since ∧
      rows + (since.map (·.deletedCount)).sum = (since.map (·.insertedCount)).sum

namespace Accounts

variable {reports : List Outcome} {outcome : Outcome}

theorem extend {rows left : Nat} (h : Accounts reports (some rows)) (hcreated : outcome ≠ .created)
    (hleft : left + outcome.deletedCount = rows + outcome.insertedCount) : Accounts (reports ++ [outcome]) (some left) := by
  obtain ⟨earlier, since, rfl, hsince, hbalance⟩ := h
  refine ⟨earlier, since ++ [outcome], by simp, ?_, ?_⟩
  · intro hmem
    rcases List.mem_append.1 hmem with hmem | hmem
    · exact hsince hmem
    · exact hcreated (List.mem_singleton.1 hmem).symm
  · simp only [List.map_append, List.map_cons, List.map_nil, List.sum_append, List.sum_cons, List.sum_nil]
    omega

/-- One more report. -/
theorem report {before after : Option Nat} (h : Accounts reports before) (hcounts : outcome.Counts before after) :
    Accounts (reports ++ [outcome]) after := by
  cases hcounts with
  | created => exact ⟨reports, [], rfl, List.not_mem_nil, rfl⟩
  | dropped rows => exact trivial
  | inserted rows count => exact h.extend nofun rfl
  | selected rows result => exact h.extend nofun rfl
  | deleted hle => exact h.extend nofun (Nat.sub_add_cancel hle)
  | updated hle => exact h.extend nofun rfl

end Accounts

theorem reportsOn_cons (name : String) (s : Statement) (statements : List Statement)
    (outcome : Except StatementError Outcome) (outcomes : List (Except StatementError Outcome)) :
    reportsOn name (s :: statements) (outcome :: outcomes) =
      (reportOn? name s outcome).toList ++ reportsOn name statements outcomes := by
  rw [reportsOn, List.zip_cons_cons, List.filterMap_cons]
  dsimp only
  cases reportOn? name s outcome <;> rfl

namespace Catalog

variable {catalog : Catalog} {name : String} {reports : List Outcome}

theorem accounts_step (s : Statement) (h : Accounts reports (catalog.rowCount? name)) :
    Accounts (reports ++ (reportOn? name s (catalog.step s).1).toList) ((catalog.step s).2.rowCount? name) := by
  by_cases hname : s.tableName = name
  · rw [reportOn?, if_pos hname]
    cases hexecute : catalog.execute s with
    | error e =>
      rw [step_of_execute_eq_error hexecute]
      simpa [Except.toOption] using h
    | ok result =>
      obtain ⟨outcome, after⟩ := result
      rw [step_of_execute_eq_ok hexecute]
      subst hname
      exact h.report (execute_counts hexecute)
  · rw [reportOn?, if_neg hname, rowCount?_step_of_ne catalog (Ne.symm hname)]
    simpa using h

theorem accounts_run (statements : List Statement) (h : Accounts reports (catalog.rowCount? name)) :
    Accounts (reports ++ reportsOn name statements (catalog.run statements).1)
      ((catalog.run statements).2.rowCount? name) := by
  induction statements generalizing catalog reports with
  | nil => simpa [reportsOn, run] using h
  | cons s statements ih =>
    rw [run_cons, reportsOn_cons, ← List.append_assoc]
    exact ih (accounts_step s h)

/-! ### Runs -/

/-- The statement at a position of a run is executed on the catalog that the ones before it have left. -/
theorem step_of_run {statements : List Statement} {index : Nat} {s : Statement} (h : statements[index]? = some s)
    {outcome : Except StatementError Outcome} (houtcome : (catalog.run statements).1[index]? = some outcome) :
    (catalog.run (statements.take index)).2.step s = (outcome, (catalog.run (statements.take (index + 1))).2) := by
  induction statements generalizing catalog index with
  | nil => simp at h
  | cons first statements ih =>
    rw [run_cons] at houtcome
    cases index with
    | zero =>
      obtain rfl := Option.some.inj h
      obtain rfl := Option.some.inj houtcome
      rfl
    | succ index =>
      rw [List.take_succ_cons, List.take_succ_cons, run_cons, run_cons]
      exact ih h houtcome

/-- What the report of a statement in a run says holds of the number of rows before and after it. -/
theorem counts_of_run {statements : List Statement} {index : Nat} {s : Statement} (h : statements[index]? = some s)
    {outcome : Outcome} (houtcome : (catalog.run statements).1[index]? = some (.ok outcome)) :
    outcome.Counts ((catalog.run (statements.take index)).2.rowCount? s.tableName)
      ((catalog.run (statements.take (index + 1))).2.rowCount? s.tableName) :=
  execute_counts (step_eq_ok_iff.1 (step_of_run h houtcome))

/-- After every run from the empty catalog, the rows of a table are those inserted since it was made, less those deleted.
An UPDATE leaves the number of rows of all tables as it is, and neither it nor a DELETE reports more rows than there
were. -/
theorem rows_accounted_for (statements : List Statement) :
    (∀ name table, (empty.run statements).2.table? name = some table →
      ∃ earlier since, reportsOn name statements (empty.run statements).1 = earlier ++ .created :: since ∧
        .created ∉ since ∧
        table.rows.length + (since.map (·.deletedCount)).sum = (since.map (·.insertedCount)).sum) ∧
      ∀ index s count, statements[index]? = some s →
        let before := (empty.run (statements.take index)).2
        let after := (empty.run (statements.take (index + 1))).2
        let outcome? := (empty.run statements).1[index]?
        (outcome? = some (.ok (.updated count)) →
          after.rowCount? = before.rowCount? ∧ ∃ rows, before.rowCount? s.tableName = some rows ∧ count ≤ rows) ∧
        (outcome? = some (.ok (.deleted count)) → ∃ rows, before.rowCount? s.tableName = some rows ∧ count ≤ rows) := by
  refine ⟨fun name table htable => ?_, fun index s count hs => ?_⟩
  · have haccounts : Accounts ([] ++ reportsOn name statements (empty.run statements).1)
        ((empty.run statements).2.rowCount? name) := accounts_run statements trivial
    rw [List.nil_append, rowCount?_of_table? htable] at haccounts
    exact haccounts
  · intro before after outcome?
    refine ⟨fun hupdated => ?_, fun hdeleted => (counts_of_run hs hdeleted).of_deleted⟩
    have hstep : before.step s = (.ok (.updated count), after) := step_of_run hs hupdated
    obtain ⟨hnamed, hrows⟩ := (counts_of_run hs hupdated).of_updated
    refine ⟨?_, hrows⟩
    funext name
    by_cases hname : name = s.tableName
    · rw [hname]
      exact hnamed
    · have hothers := rowCount?_step_of_ne before hname
      rwa [hstep] at hothers

/-- The rows of a table that was dropped and made again: what was inserted before counts no more. -/
theorem rows_accounted_for_of_made_again :
    let word (name : String) : Token := ⟨.identifier name, .start⟩
    let truth (value : Bool) : Expression := .term ⟨.boolean value, .start⟩
    let make : Statement := .create ⟨word "t", [⟨word "a", ⟨.keyword .boolean, .start⟩, .null⟩]⟩
    let add (values : List Bool) : Statement := .insert ⟨word "t", values.map fun value => [truth value]⟩
    let clear : Statement := .delete ⟨word "t", some (.term (word "a"))⟩
    let statements : List Statement := [make, add [true], .drop ⟨word "t"⟩, make, add [true, false, false], clear]
    (empty.run statements).2.table? "t" = some ⟨[⟨"a", .boolean, true⟩], [[.boolean false], [.boolean false]]⟩ ∧
      ∃ earlier since, reportsOn "t" statements (empty.run statements).1 = earlier ++ .created :: since ∧
        .created ∉ since ∧ 2 + (since.map (·.deletedCount)).sum = (since.map (·.insertedCount)).sum := by
  intro word truth make add clear statements
  have htable : (empty.run statements).2.table? "t" =
      some ⟨[⟨"a", .boolean, true⟩], [[.boolean false], [.boolean false]]⟩ := by decide +kernel
  exact ⟨htable, (rows_accounted_for statements).1 "t" _ htable⟩

end Catalog

end SqlShell
