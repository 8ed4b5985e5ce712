import SqlShell.Proofs.Execution.Steps
import SqlShell.Proofs.Execution.Tables
/-!
# Execution in place

`Catalog.execute` gives a new catalog, so it cannot leave a failed statement half done. Here the statements are actions
that write into one catalog, row by row, and nothing takes back what has been written when an error comes after it.
Both give the same outcomes and the same catalogs (`execute_on`), because every action has made all its checks before
its first write. So failed statements leave no trace, and neither do the SELECTs
(`failed_statements_leave_no_trace`).
-/

namespace SqlShell

/-- An action on a catalog. An error keeps what was written before it. -/
abbrev InPlace (α : Type) := ExceptT StatementError (StateM Catalog) α

namespace InPlace

variable {α β : Type}

/-- What an action gives on a catalog, and the catalog that it leaves. -/
def on (x : InPlace α) (catalog : Catalog) : Except StatementError α × Catalog :=
  x.run.run catalog

/-- A step that neither reads nor writes the catalog, but can fail. -/
def check (x : Except StatementError α) : InPlace α :=
  ExceptT.mk (pure x)

/-- The table of a name. -/
def find (name : String) : InPlace Table := do
  check ((← get).find name)

/-- Puts a table under its name. -/
def put (name : String) (table : Table) : InPlace Unit :=
  modify (·.put name table)

def createTable (s : CreateTable) : InPlace Outcome := do
  let name := s.name.text
  if ((← get).table? name).isSome then throw (.tableAlreadyExists name)
  let columns ← check (addColumns [] s.columns)
  put name ⟨columns, []⟩
  return .created

/-- The table is taken out before it is known whether there was one. -/
def dropTable (s : DropTable) : InPlace Outcome := do
  let name := s.name.text
  let table? := (← get).table? name
  modify (·.erase name)
  if table?.isSome then return .dropped else throw (.tableDoesNotExist name)

/-- Writes a row behind the others. -/
def appendRow (name : String) (row : Row) : InPlace Unit := do
  let table ← find name
  put name { table with rows := table.rows ++ [row] }

def insert (s : Insert) : InPlace Outcome := do
  let name := s.table.text
  let table ← find name
  let staged ← s.rows.mapM fun values => check (table.newRow values)
  staged.forM (appendRow name)
  return .inserted staged.length

/-- The rows whose flag is not set. Rows without a flag stay. -/
def retain : List Bool → List Row → List Row
  | _, [] => []
  | [], rows => rows
  | flag :: flags, row :: rows => if flag then retain flags rows else row :: retain flags rows

def delete (s : Delete) : InPlace Outcome := do
  let name := s.table.text
  let table ← find name
  let condition ← check (BoundExpression.ofCondition table s.condition)
  let doomed ← table.rows.mapM fun row => check (BoundExpression.admits condition row)
  put name { table with rows := retain doomed table.rows }
  let left ← find name
  return .deleted (table.rows.length - left.rows.length)

/-- Writes a row in place of another. -/
def writeRow (name : String) (position : Nat) (row : Row) : InPlace Unit := do
  let table ← find name
  if position < table.rows.length then put name { table with rows := table.rows.set position row }
  else throw .outOfBounds

/-- The new rows and their positions, the first one at `start`. -/
def stage (start : Nat) (updated : List (Option Row)) : List (Nat × Row) :=
  (updated.zipIdx start).filterMap fun (new, position) => new.map (position, ·)

def update (s : Update) : InPlace Outcome := do
  let name := s.table.text
  let table ← find name
  let targets ← check (table.bindAssignments [] s.assignments)
  let condition ← check (BoundExpression.ofCondition table s.condition)
  let updated ← table.rows.mapM fun row => check (table.updatedRow? condition targets row)
  let staged := stage 0 updated
  staged.forM fun (position, row) => writeRow name position row
  return .updated staged.length

/-- Executes a statement in place. -/
def execute : Statement → InPlace Outcome
  | .create s => createTable s
  | .drop s => dropTable s
  | .insert s => insert s
  | .select s => do return .selected (← check ((← get).select s))
  | .delete s => delete s
  | .update s => update s

end InPlace

namespace Catalog

/-- Executes statements in place, one after another. -/
def runInPlace (catalog : Catalog) : List Statement → List (Except StatementError Outcome) × Catalog
  | [] => ([], catalog)
  | s :: statements =>
    let (outcome, next) := (InPlace.execute s).on catalog
    let (outcomes, last) := next.runInPlace statements
    (outcome :: outcomes, last)

/-- Executes the statements of a text in place. -/
def executeBatchInPlace (catalog : Catalog) (source : String) :
    Except ParseError (List (Except StatementError Outcome)) × Catalog :=
  match parse source with
  | .error e => (.error e, catalog)
  | .ok statements =>
    let (outcomes, after) := catalog.runInPlace statements
    (.ok outcomes, after)

end Catalog

namespace InPlace

variable {α β : Type}

/-! ### Checks -/

variable {catalog after : Catalog} {name : String} {table : Table}

theorem on_bind_of_ok {x : InPlace α} {k : α → InPlace β} {a : α} (h : x.on catalog = (.ok a, after)) :
    (x >>= k).on catalog = (k a).on after := by
  change x.run.run catalog = _ at h
  rw [on, ExceptT.run_bind, StateT.run_bind, h]
  rfl

theorem check_bind (x : Except StatementError α) (f : α → Except StatementError β) :
    check (x >>= f) = check x >>= fun a => check (f a) := by
  cases x <;> rfl

theorem mapM_check (f : α → Except StatementError β) (as : List α) :
    as.mapM (fun a => check (f a)) = check (as.mapM f) := by
  induction as with
  | nil => rfl
  | cons a as ih =>
    rw [List.mapM_cons, List.mapM_cons, ih, check_bind]
    exact congrArg _ (funext fun b => (check_bind _ _).symm)

/-- What has become of a catalog after a statement that gives a new one if it succeeds. -/
def committed (catalog : Catalog) : Except StatementError (Outcome × Catalog) → Except StatementError Outcome × Catalog
  | .ok (outcome, after) => (.ok outcome, after)
  | .error e => (.error e, catalog)

theorem step_eq_committed (catalog : Catalog) (s : Statement) :
    catalog.step s = committed catalog (catalog.execute s) := by
  rw [Catalog.step]
  cases catalog.execute s <;> rfl

theorem check_on_bind {x : Except StatementError α} {k : α → InPlace Outcome}
    {f : α → Except StatementError (Outcome × Catalog)}
    (h : ∀ a, x = .ok a → (k a).on catalog = committed catalog (f a)) :
    (check x >>= k).on catalog = committed catalog (x >>= f) := by
  cases x with
  | error e => rfl
  | ok a => exact h a rfl

theorem find_on_bind {k : Table → InPlace Outcome} {f : Table → Except StatementError (Outcome × Catalog)}
    (h : ∀ table, catalog.table? name = some table → (k table).on catalog = committed catalog (f table)) :
    (find name >>= k).on catalog = committed catalog (catalog.find name >>= f) :=
  check_on_bind fun table htable => h table (Catalog.find_eq_ok.1 htable)

/-! ### Writes -/

theorem find_on (h : catalog.table? name = some table) : (find name).on catalog = (.ok table, catalog) := by
  show (Catalog.find catalog name, catalog) = _
  rw [Catalog.find_eq_ok.2 h]

theorem put_on : (put name table).on catalog = (.ok (), catalog.put name table) :=
  rfl

/-- Writes that each change the table of a name, and that need something of the table that they all keep. -/
theorem forM_on {write : β → InPlace Unit} {change : Table → β → Table} (Fine : Table → Prop) {staged : List β}
    (hwrite : ∀ b ∈ staged, ∀ catalog table, Fine table → catalog.table? name = some table →
      (write b).on catalog = (.ok (), catalog.put name (change table b)) ∧ Fine (change table b))
    (htable : catalog.table? name = some table) (hfine : Fine table) :
    (staged.forM write).on catalog = (.ok (), catalog.put name (staged.foldl change table)) := by
  induction staged generalizing catalog table with
  | nil => rw [List.foldl_nil, Catalog.put_self htable]; rfl
  | cons b staged ih =>
    obtain ⟨hfirst, hkept⟩ := hwrite b List.mem_cons_self catalog table hfine htable
    have hnext : (catalog.put name (change table b)).table? name = some (change table b) := Catalog.table?_put_self
    have hrest := ih (fun c hc => hwrite c (List.mem_cons_of_mem _ hc)) hnext hkept
    rw [Catalog.put_put] at hrest
    exact (on_bind_of_ok hfirst).trans hrest

theorem appendRow_on (row : Row) (h : catalog.table? name = some table) :
    (appendRow name row).on catalog = (.ok (), catalog.put name { table with rows := table.rows ++ [row] }) :=
  on_bind_of_ok (find_on h)

theorem foldl_appendRow (rows : List Row) :
    rows.foldl (fun (table : Table) row => { table with rows := table.rows ++ [row] }) table =
      { table with rows := table.rows ++ rows } := by
  induction rows generalizing table with
  | nil => simp
  | cons row rows ih => rw [List.foldl_cons, ih]; simp

theorem writeRow_on {position : Nat} (row : Row) (h : catalog.table? name = some table)
    (hposition : position < table.rows.length) :
    (writeRow name position row).on catalog =
      (.ok (), catalog.put name { table with rows := table.rows.set position row }) := by
  rw [writeRow, on_bind_of_ok (find_on h), if_pos hposition]
  rfl

theorem stage_cons (start : Nat) (new : Option Row) (updated : List (Option Row)) :
    stage start (new :: updated) = (new.map (start, ·)).toList ++ stage (start + 1) updated := by
  cases new <;> simp [stage]

theorem length_stage (start : Nat) (updated : List (Option Row)) :
    (stage start updated).length = updated.countP (·.isSome) := by
  induction updated generalizing start with
  | nil => rfl
  | cons new updated ih =>
    rw [stage_cons, List.length_append, ih, List.countP_cons]
    cases new <;> simp [Nat.add_comm]

/-- The staged positions are positions of the rows that the staging went through. -/
theorem lt_of_mem_stage {start position : Nat} {row : Row} {updated : List (Option Row)}
    (h : (position, row) ∈ stage start updated) : position < start + updated.length := by
  induction updated generalizing start with
  | nil => simp [stage] at h
  | cons new updated ih =>
    rw [stage_cons, List.mem_append] at h
    rw [List.length_cons]
    rcases h with h | h
    · obtain ⟨_, -, heq⟩ := Option.map_eq_some_iff.1 (Option.mem_toList.1 h)
      have := congrArg Prod.fst heq
      dsimp only at this
      omega
    · have := ih h
      omega

/-- The staged rows, written to their positions, take the places of the rows that they were made of. -/
theorem foldl_writeRow (before : List Row) {rows : List Row} {updated : List (Option Row)}
    (hlength : rows.length = updated.length) :
    (stage before.length updated).foldl (fun (table : Table) new => { table with rows := table.rows.set new.1 new.2 })
        { table with rows := before ++ rows } =
      { table with rows := before ++ rows.zipWith (fun row new => new.getD row) updated } := by
  induction updated generalizing before rows with
  | nil =>
    obtain rfl := List.length_eq_zero_iff.1 hlength
    rfl
  | cons new updated ih =>
    obtain ⟨row, rows, rfl⟩ := List.exists_cons_of_length_eq_add_one hlength
    have hrest : rows.length = updated.length := by simpa using hlength
    have hnext := ih (before ++ [new.getD row]) hrest
    rw [List.length_append, List.append_assoc, List.append_assoc] at hnext
    rw [stage_cons, List.zipWith_cons_cons]
    cases new with
    | none => exact hnext
    | some updatedRow =>
      have hset : (before ++ row :: rows).set before.length updatedRow = before ++ updatedRow :: rows := by
        rw [List.set_append_right _ _ (Nat.le_refl _), Nat.sub_self, List.set_cons_zero]
      show (stage (before.length + 1) updated).foldl _
        { table with rows := (before ++ row :: rows).set before.length updatedRow } = _
      rw [hset]
      exact hnext

/-! ### Statements -/

/-- Going by flags that were set beforehand leaves the rows that pass the test one by one. -/
theorem filterRows_not (test : Row → Except StatementError Bool) (rows : List Row) :
    filterRows (fun row => do return !(← test row)) rows = do return retain (← rows.mapM test) rows := by
  induction rows with
  | nil => rfl
  | cons row rows ih =>
    rw [filterRows, List.mapM_cons, ih]
    cases test row with
    | error e => rfl
    | ok flag =>
      cases rows.mapM test with
      | error e => rfl
      | ok flags => cases flag <;> rfl

theorem get_on_bind (k : Catalog → InPlace α) : (get >>= k).on catalog = (k catalog).on catalog :=
  rfl

theorem createTable_on (s : CreateTable) :
    (createTable s).on catalog = committed catalog (catalog.createTable s) := by
  rw [createTable, Catalog.createTable, get_on_bind]
  cases (catalog.table? s.name.text).isSome with
  | true => rfl
  | false => exact check_on_bind fun columns _ => rfl

theorem dropTable_on (s : DropTable) : (dropTable s).on catalog = committed catalog (catalog.dropTable s) := by
  have hdrop : (dropTable s).on catalog = (if (catalog.table? s.name.text).isSome then .ok .dropped
      else .error (.tableDoesNotExist s.name.text), catalog.erase s.name.text) := by
    show ((if (catalog.table? s.name.text).isSome then pure Outcome.dropped
      else throw (.tableDoesNotExist s.name.text) : InPlace Outcome)).on (catalog.erase s.name.text) = _
    split <;> rfl
  rw [hdrop, Catalog.dropTable]
  cases htable : catalog.table? s.name.text with
  | none => rw [Catalog.erase_of_table?_eq_none htable]; rfl
  | some table => rfl

theorem insert_on (s : Insert) : (insert s).on catalog = committed catalog (catalog.insert s) := by
  refine find_on_bind fun table htable => ?_
  rw [mapM_check]
  refine check_on_bind fun rows _ => ?_
  have hwrites : (rows.forM (appendRow s.table.text)).on catalog = _ :=
    forM_on (fun _ => True) (fun row _ catalog table _ h => ⟨appendRow_on row h, trivial⟩) htable trivial
  rw [on_bind_of_ok hwrites, foldl_appendRow]
  rfl

theorem delete_on (s : Delete) : (delete s).on catalog = committed catalog (catalog.delete s) := by
  refine find_on_bind fun table htable => check_on_bind fun condition _ => ?_
  rw [mapM_check, filterRows_not, bind_assoc]
  refine check_on_bind fun doomed _ => ?_
  rw [on_bind_of_ok put_on, on_bind_of_ok (find_on Catalog.table?_put_self)]
  rfl

theorem update_on (s : Update) : (update s).on catalog = committed catalog (catalog.update s) := by
  refine find_on_bind fun table htable => check_on_bind fun targets _ => check_on_bind fun condition _ => ?_
  rw [mapM_check]
  refine check_on_bind fun updated hupdated => ?_
  have hlength : table.rows.length = updated.length := (mapM_eq_ok.1 hupdated).length_eq
  have hpositions : ∀ new ∈ stage 0 updated, new.1 < updated.length := fun new hnew => by
    simpa using lt_of_mem_stage hnew
  have hwrites : ((stage 0 updated).forM fun new => writeRow s.table.text new.1 new.2).on catalog = _ :=
    forM_on (·.rows.length = updated.length) (fun new hnew catalog other hother h =>
      ⟨writeRow_on new.2 h (hother ▸ hpositions new hnew), (List.length_set ..).trans hother⟩) htable hlength
  rw [on_bind_of_ok hwrites, length_stage]
  exact congrArg _ (congrArg _ (foldl_writeRow [] hlength))

/-- In place or not, a statement does the same. -/
theorem execute_on (s : Statement) (catalog : Catalog) : (execute s).on catalog = catalog.step s := by
  rw [step_eq_committed]
  cases s with
  | create s => exact createTable_on s
  | drop s => exact dropTable_on s
  | insert s => exact insert_on s
  | select s =>
    show (check (catalog.select s) >>= fun result => pure (Outcome.selected result)).on catalog = _
    exact check_on_bind fun result _ => rfl
  | delete s => exact delete_on s
  | update s => exact update_on s

end InPlace

namespace Catalog

theorem runInPlace_eq (catalog : Catalog) (statements : List Statement) :
    catalog.runInPlace statements = catalog.run statements := by
  induction statements generalizing catalog with
  | nil => rfl
  | cons s statements ih =>
    rw [runInPlace, run, InPlace.execute_on]
    simp only [ih]

theorem executeBatchInPlace_eq (catalog : Catalog) (source : String) :
    catalog.executeBatchInPlace source = catalog.executeBatch source := by
  rw [executeBatchInPlace, executeBatch]
  cases parse source with
  | error e => rfl
  | ok statements => simp only [runInPlace_eq]

/-! ### Statements without effect -/

/-- A statement that can have changed something, going by its outcome: it succeeded, and it is no SELECT. -/
def hasEffect : Statement × Except StatementError Outcome → Bool
  | (.select _, _) => false
  | (_, .ok _) => true
  | (_, .error _) => false

/-- The statements that can have changed something, with their outcomes. -/
def effective (statements : List Statement) (outcomes : List (Except StatementError Outcome)) :
    List (Statement × Except StatementError Outcome) :=
  (statements.zip outcomes).filter hasEffect

theorem step_of_hasEffect_eq_false {catalog : Catalog} {s : Statement}
    (h : hasEffect (s, (catalog.step s).1) = false) : (catalog.step s).2 = catalog := by
  cases hexecute : catalog.execute s with
  | error e => rw [step_of_execute_eq_error hexecute]
  | ok result =>
    obtain ⟨outcome, after⟩ := result
    rw [step_of_execute_eq_ok hexecute] at h ⊢
    cases s with
    | select s =>
      obtain ⟨result, -, heq⟩ := except_bind_eq_ok.1 hexecute
      exact (Prod.mk.inj (except_pure_eq_ok.1 heq)).2.symm
    | _ => simp [hasEffect] at h

theorem run_effective (catalog : Catalog) (statements : List Statement) :
    catalog.run ((effective statements (catalog.run statements).1).map (·.1)) =
      ((effective statements (catalog.run statements).1).map (·.2), (catalog.run statements).2) := by
  induction statements generalizing catalog with
  | nil => rfl
  | cons s statements ih =>
    have hrest := ih (catalog.step s).2
    rw [effective] at hrest ⊢
    rw [run_cons, List.zip_cons_cons]
    cases heffect : hasEffect (s, (catalog.step s).1) with
    | true => rw [List.filter_cons_of_pos heffect, List.map_cons, List.map_cons, run_cons, hrest]
    | false =>
      rw [step_of_hasEffect_eq_false heffect] at hrest ⊢
      rw [List.filter_cons_of_neg (by simp [heffect])]
      exact hrest

/-- Statements that fail, and SELECTs, can be left out of a run: the others give the same outcomes, and the catalog is
the same in the end. This holds although the statements write into the catalog in place, since one that fails there
leaves the catalog as it was. -/
theorem failed_statements_leave_no_trace (catalog : Catalog) (statements : List Statement) :
    catalog.runInPlace statements = catalog.run statements ∧
      (∀ s e after, (InPlace.execute s).on catalog = (.error e, after) → after = catalog) ∧
      catalog.run ((effective statements (catalog.run statements).1).map (·.1)) =
        ((effective statements (catalog.run statements).1).map (·.2), (catalog.run statements).2) := by
  refine ⟨runInPlace_eq catalog statements, fun s e after h => ?_, run_effective catalog statements⟩
  rw [InPlace.execute_on] at h
  have hfailed : hasEffect (s, (catalog.step s).1) = false := by
    rw [h]
    cases s <;> rfl
  exact (congrArg Prod.snd h).symm.trans (step_of_hasEffect_eq_false hfailed)

end Catalog

end SqlShell
