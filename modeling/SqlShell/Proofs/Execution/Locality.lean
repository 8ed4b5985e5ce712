import SqlShell.Proofs.Execution.Steps
import SqlShell.Proofs.Execution.Tables
/-!
# Statements and the tables they name

A statement names one table. It changes no other (`Catalog.table?_step_of_ne`), and it looks at no other: on catalogs
with the same table under that name it reports the same and leaves the same table there
(`Catalog.step_eq_of_same_table`). So two statements that name different tables may change places
(`Catalog.run_pair_swap`).
-/

namespace SqlShell

/-- The name of the table that a statement is about. -/
def Statement.tableName : Statement → String
  | .create s => s.name.text
  | .drop s => s.name.text
  | .insert s => s.table.text
  | .select s => s.table.text
  | .delete s => s.table.text
  | .update s => s.table.text

namespace Catalog

variable {catalog first second : Catalog} {name : String} {s t : Statement}

/-! ### Other tables stay as they are -/

theorem table?_execute_of_ne (h : name ≠ s.tableName) {outcome : Outcome} {after : Catalog}
    (hexecute : catalog.execute s = .ok (outcome, after)) : after.table? name = catalog.table? name := by
  cases s with
  | create s =>
    obtain ⟨-, columns, -, heq⟩ := createTable_eq_ok.1 hexecute
    obtain ⟨-, rfl⟩ := Prod.mk.inj heq
    exact table?_put_of_ne h
  | drop s =>
    obtain ⟨-, heq⟩ := dropTable_eq_ok.1 hexecute
    obtain ⟨-, rfl⟩ := Prod.mk.inj heq
    exact table?_erase_of_ne h
  | insert s =>
    obtain ⟨table, rows, -, -, heq⟩ := insert_eq_ok.1 hexecute
    obtain ⟨-, rfl⟩ := Prod.mk.inj heq
    exact table?_put_of_ne h
  | select s =>
    obtain ⟨result, -, heq⟩ := except_bind_eq_ok.1 hexecute
    obtain ⟨-, rfl⟩ := Prod.mk.inj (except_pure_eq_ok.1 heq)
    rfl
  | delete s =>
    obtain ⟨table, condition, kept, -, -, -, heq⟩ := delete_eq_ok.1 hexecute
    obtain ⟨-, rfl⟩ := Prod.mk.inj heq
    exact table?_put_of_ne h
  | update s =>
    obtain ⟨table, targets, condition, updated, -, -, -, -, heq⟩ := update_eq_ok.1 hexecute
    obtain ⟨-, rfl⟩ := Prod.mk.inj heq
    exact table?_put_of_ne h

/-- A statement changes no table but the one that it names. -/
theorem table?_step_of_ne (catalog : Catalog) (h : name ≠ s.tableName) :
    (catalog.step s).2.table? name = catalog.table? name := by
  cases hexecute : catalog.execute s with
  | error e => rw [step_of_execute_eq_error hexecute]
  | ok result =>
    obtain ⟨outcome, after⟩ := result
    rw [step_of_execute_eq_ok hexecute]
    exact table?_execute_of_ne h hexecute

/-! ### Other tables play no part -/

/-- What an execution reports, and the table that it leaves under a name. -/
def seenAt (name : String) (result : Except StatementError (Outcome × Catalog)) :
    Except StatementError (Outcome × Option Table) :=
  result.map fun (outcome, after) => (outcome, after.table? name)

section

variable {α : Type}

theorem seenAt_bind (x : Except StatementError α) {k l : α → Except StatementError (Outcome × Catalog)}
    (h : ∀ a, seenAt name (k a) = seenAt name (l a)) : seenAt name (x >>= k) = seenAt name (x >>= l) := by
  cases x with
  | error e => rfl
  | ok a => exact h a

theorem seenAt_find_bind (hsame : first.table? name = second.table? name)
    {k l : Table → Except StatementError (Outcome × Catalog)}
    (h : ∀ table, seenAt name (k table) = seenAt name (l table)) :
    seenAt name (first.find name >>= k) = seenAt name (second.find name >>= l) := by
  have hfind : first.find name = second.find name := by rw [find, find, hsame]
  rw [hfind]
  exact seenAt_bind _ h

theorem seenAt_put (outcome : Outcome) (table : Table) :
    seenAt name (.ok (outcome, first.put name table)) = seenAt name (.ok (outcome, second.put name table)) := by
  simp only [seenAt, Except.map, table?_put_self]

end

theorem execute_eq_of_same_table (hsame : first.table? s.tableName = second.table? s.tableName) :
    seenAt s.tableName (first.execute s) = seenAt s.tableName (second.execute s) := by
  cases s with
  | create s =>
    show seenAt s.name.text (first.createTable s) = seenAt s.name.text (second.createTable s)
    have hname : first.table? s.name.text = second.table? s.name.text := hsame
    rw [createTable, createTable, hname]
    cases (second.table? s.name.text).isSome with
    | true => rfl
    | false => exact seenAt_bind _ fun columns => seenAt_put _ _
  | drop s =>
    show seenAt s.name.text (first.dropTable s) = seenAt s.name.text (second.dropTable s)
    have hname : first.table? s.name.text = second.table? s.name.text := hsame
    rw [dropTable, dropTable, hname]
    cases (second.table? s.name.text).isSome with
    | true => simp only [seenAt, Except.map, table?_erase_self, if_true]
    | false => rfl
  | insert s => exact seenAt_find_bind hsame fun table => seenAt_bind _ fun rows => seenAt_put _ _
  | select s =>
    have hselect : first.select s = second.select s := by
      have hfind : first.find s.table.text = second.find s.table.text := by rw [find, find]; exact hsame ▸ rfl
      rw [select, select, hfind]
    show seenAt s.table.text (first.select s >>= _) = seenAt s.table.text (second.select s >>= _)
    rw [hselect]
    refine seenAt_bind _ fun result => ?_
    exact congrArg (fun table => Except.ok (Outcome.selected result, table)) hsame
  | delete s =>
    exact seenAt_find_bind hsame fun table => seenAt_bind _ fun condition => seenAt_bind _ fun kept => seenAt_put _ _
  | update s =>
    exact seenAt_find_bind hsame fun table => seenAt_bind _ fun targets => seenAt_bind _ fun condition =>
      seenAt_bind _ fun updated => seenAt_put _ _

/-- On catalogs with the same table under the name, a statement reports the same and leaves the same table there. -/
theorem step_eq_of_same_table (hsame : first.table? s.tableName = second.table? s.tableName) :
    (first.step s).1 = (second.step s).1 ∧
      (first.step s).2.table? s.tableName = (second.step s).2.table? s.tableName := by
  have hseen := execute_eq_of_same_table hsame
  rw [step, step]
  generalize first.execute s = result, second.execute s = result' at hseen
  cases result with
  | error e =>
    cases result' with
    | error e' => exact ⟨congrArg Except.error (Except.error.inj hseen), hsame⟩
    | ok pair => simp [seenAt, Except.map] at hseen
  | ok pair =>
    cases result' with
    | error e' => simp [seenAt, Except.map] at hseen
    | ok pair' =>
      obtain ⟨houtcome, htable⟩ := Prod.mk.inj (Except.ok.inj hseen)
      exact ⟨congrArg Except.ok houtcome, htable⟩

/-! ### Changing places -/

/-- What a statement reports is not changed by a statement that names another table. -/
theorem step_step_fst (catalog : Catalog) (h : s.tableName ≠ t.tableName) :
    ((catalog.step s).2.step t).1 = (catalog.step t).1 :=
  (step_eq_of_same_table (table?_step_of_ne catalog h.symm)).1

theorem step_step_snd (catalog : Catalog) (h : s.tableName ≠ t.tableName) :
    ((catalog.step s).2.step t).2 = ((catalog.step t).2.step s).2 := by
  -- the table of either name is left by the statement that names it
  have hleft {s t : Statement} (h : s.tableName ≠ t.tableName) :
      ((catalog.step s).2.step t).2.table? s.tableName = ((catalog.step t).2.step s).2.table? s.tableName :=
    (table?_step_of_ne _ h).trans (step_eq_of_same_table (table?_step_of_ne catalog h).symm).2
  refine ext_table? fun name => ?_
  by_cases hs : name = s.tableName
  · rw [hs]
    exact hleft h
  · by_cases ht : name = t.tableName
    · rw [ht]
      exact (hleft h.symm).symm
    · rw [table?_step_of_ne _ ht, table?_step_of_ne _ hs, table?_step_of_ne _ hs, table?_step_of_ne _ ht]

/-- Two statements that name different tables may change places: each reports what it reported before, and the catalog
is the same in the end. -/
theorem run_pair_swap (catalog : Catalog) {s t : Statement} (h : s.tableName ≠ t.tableName) :
    catalog.run [t, s] = ((catalog.run [s, t]).1.reverse, (catalog.run [s, t]).2) := by
  have hs := step_step_fst catalog h.symm
  have ht := step_step_fst catalog h
  show ([(catalog.step t).1, ((catalog.step t).2.step s).1], ((catalog.step t).2.step s).2) =
    ([((catalog.step s).2.step t).1, (catalog.step s).1], ((catalog.step s).2.step t).2)
  rw [hs, ht, step_step_snd catalog h]

/-- A refused INSERT and the CREATE TABLE of another table, in either order. -/
theorem run_pair_swap_of_refused_insert :
    (Statement.insert ⟨⟨.identifier "t", .start⟩, [[.term ⟨.keyword .null, .start⟩]]⟩).tableName ≠
        (Statement.create ⟨⟨.identifier "u", .start⟩,
          [⟨⟨.identifier "b", .start⟩, ⟨.keyword .text, .start⟩, .unspecified⟩]⟩).tableName ∧
      (empty.put "t" ⟨[⟨"a", .int, false⟩], []⟩).run
          [.insert ⟨⟨.identifier "t", .start⟩, [[.term ⟨.keyword .null, .start⟩]]⟩,
            .create ⟨⟨.identifier "u", .start⟩,
              [⟨⟨.identifier "b", .start⟩, ⟨.keyword .text, .start⟩, .unspecified⟩]⟩] =
        ([.error (.nullConstraint "a"), .ok .created],
          (empty.put "t" ⟨[⟨"a", .int, false⟩], []⟩).put "u" ⟨[⟨"b", .text, true⟩], []⟩) ∧
      (empty.put "t" ⟨[⟨"a", .int, false⟩], []⟩).run
          [.create ⟨⟨.identifier "u", .start⟩,
              [⟨⟨.identifier "b", .start⟩, ⟨.keyword .text, .start⟩, .unspecified⟩]⟩,
            .insert ⟨⟨.identifier "t", .start⟩, [[.term ⟨.keyword .null, .start⟩]]⟩] =
        ([.ok .created, .error (.nullConstraint "a")],
          (empty.put "t" ⟨[⟨"a", .int, false⟩], []⟩).put "u" ⟨[⟨"b", .text, true⟩], []⟩) := by
  have hnames : (Statement.insert ⟨⟨.identifier "t", .start⟩, [[.term ⟨.keyword .null, .start⟩]]⟩).tableName ≠
      (Statement.create ⟨⟨.identifier "u", .start⟩,
        [⟨⟨.identifier "b", .start⟩, ⟨.keyword .text, .start⟩, .unspecified⟩]⟩).tableName := by decide
  exact ⟨hnames, rfl, run_pair_swap (empty.put "t" ⟨[⟨"a", .int, false⟩], []⟩) hnames⟩

end Catalog

end SqlShell
