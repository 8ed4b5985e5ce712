import Mathlib.Data.List.Forall2
import SqlShell.Execution.Batch
/-!
# What a statement does when it succeeds

One lemma for each operation says what a successful execution has found and which catalog it leaves. The rest of
the theory reaches the executor only through these lemmas: no later proof opens `Catalog.insert` or its siblings.
The operations are written in `Except`, so everything starts from `except_bind_eq_ok` and `mapM_eq_ok`.
-/

namespace SqlShell

theorem except_bind_eq_ok {ε α β : Type} {x : Except ε α} {f : α → Except ε β} {b : β} :
    (x >>= f) = .ok b ↔ ∃ a, x = .ok a ∧ f a = .ok b := by
  cases x with
  | error e => simp [bind, Except.bind]
  | ok a => simp [bind, Except.bind]

theorem except_pure_eq_ok {ε α : Type} {a b : α} : (pure a : Except ε α) = .ok b ↔ a = b := by
  simp [pure, Except.pure]

/-- A list is computed element by element. -/
theorem mapM_eq_ok {ε α β : Type} {f : α → Except ε β} {as : List α} {bs : List β} :
    as.mapM f = .ok bs ↔ List.Forall₂ (fun a b => f a = .ok b) as bs := by
  induction as generalizing bs with
  | nil => rw [List.mapM_nil, except_pure_eq_ok, List.forall₂_nil_left_iff, eq_comm]
  | cons a as ih =>
    rw [List.mapM_cons, except_bind_eq_ok, List.forall₂_cons_left_iff]
    simp only [except_bind_eq_ok, ih, except_pure_eq_ok]
    constructor
    · rintro ⟨b, hb, bs, hbs, rfl⟩
      exact ⟨b, bs, hb, hbs, rfl⟩
    · rintro ⟨b, bs, hb, hbs, rfl⟩
      exact ⟨b, hb, bs, hbs, rfl⟩

theorem mapM_eq_ok_map {ε α β : Type} {f : α → Except ε β} {g : α → β} {as : List α} (h : ∀ a ∈ as, f a = .ok (g a)) :
    as.mapM f = .ok (as.map g) :=
  mapM_eq_ok.2 (List.forall₂_map_right_iff.2 (List.forall₂_same.2 h))

/-- Where there is only one error that elements can give, and one of them gives it, the list gives it. -/
theorem mapM_eq_error {ε α β : Type} {f : α → Except ε β} {e : ε} {as : List α}
    (h : ∀ a ∈ as, (∃ b, f a = .ok b) ∨ f a = .error e) (hfails : ∃ a ∈ as, f a = .error e) : as.mapM f = .error e := by
  induction as with
  | nil => simp at hfails
  | cons a as ih =>
    rw [List.mapM_cons]
    rcases h a List.mem_cons_self with ⟨b, hb⟩ | hb
    · have hrest : ∃ a ∈ as, f a = .error e := by
        obtain ⟨c, hc, herror⟩ := hfails
        rcases List.mem_cons.1 hc with rfl | hc
        · simp [hb] at herror
        · exact ⟨c, hc, herror⟩
      rw [hb, ih (fun c hc => h c (List.mem_cons_of_mem _ hc)) hrest]
      rfl
    · rw [hb]
      rfl

theorem exists_of_forall₂_of_mem {α β : Type} {R : α → β → Prop} {as : List α} {bs : List β}
    (h : List.Forall₂ R as bs) {b : β} (hb : b ∈ bs) : ∃ a ∈ as, R a b := by
  induction h with
  | nil => simp at hb
  | cons hab _ ih =>
    rcases List.mem_cons.1 hb with rfl | hb
    · exact ⟨_, List.mem_cons_self, hab⟩
    · obtain ⟨a, ha, hr⟩ := ih hb
      exact ⟨a, List.mem_cons_of_mem _ ha, hr⟩

theorem exists_forall₂ {α β : Type} {R : α → β → Prop} {as : List α} (h : ∀ a ∈ as, ∃ b, R a b) :
    ∃ bs, List.Forall₂ R as bs := by
  induction as with
  | nil => exact ⟨[], .nil⟩
  | cons a as ih =>
    obtain ⟨b, hb⟩ := h a List.mem_cons_self
    obtain ⟨bs, hbs⟩ := ih fun other hother => h other (List.mem_cons_of_mem _ hother)
    exact ⟨b :: bs, .cons hb hbs⟩

theorem forall₂_zipWith {α β γ : Type} {R : α → γ → Prop} {f : α → β → γ} {as : List α} {bs : List β}
    (h : List.Forall₂ (fun a b => R a (f a b)) as bs) : List.Forall₂ R as (as.zipWith f bs) := by
  induction h with
  | nil => exact .nil
  | cons hab _ ih => exact .cons hab ih

theorem countP_eq_of_forall₂ {α β : Type} {p : α → Bool} {q : β → Bool} {as : List α} {bs : List β}
    (h : List.Forall₂ (fun a b => p a = q b) as bs) : as.countP p = bs.countP q := by
  induction h with
  | nil => rfl
  | cons hab _ ih => rw [List.countP_cons, List.countP_cons, ih, hab]

theorem forall₂_map_map {α β γ : Type} {R : β → γ → Prop} {f : α → β} {g : α → γ} {as : List α}
    (h : ∀ a ∈ as, R (f a) (g a)) : List.Forall₂ R (as.map f) (as.map g) :=
  List.forall₂_map_left_iff.2 (List.forall₂_map_right_iff.2 (List.forall₂_same.2 h))

theorem forall₂_set {α β : Type} {R : α → β → Prop} {as : List α} {bs : List β} (h : List.Forall₂ R as bs)
    {index : Nat} {a : α} {b : β} (ha : as[index]? = some a) (hr : R a b) : List.Forall₂ R as (bs.set index b) := by
  induction h generalizing index with
  | nil => exact .nil
  | cons hfirst hrest ih =>
    cases index with
    | zero =>
      obtain rfl := Option.some.inj ha
      exact .cons hr hrest
    | succ index => exact .cons hfirst (ih ha)

/-! ### Rows that fit -/

/-- The column can hold the cell: it is of the column's type, or it is NULL and the column takes NULL. -/
def Column.Holds (column : Column) (cell : Cell) : Prop :=
  cell.type? = some column.type ∨ cell = .null ∧ column.nullable = true

theorem Cell.type?_eq_none {cell : Cell} : cell.type? = none ↔ cell = .null := by
  cases cell <;> simp [Cell.type?]

theorem Column.accept_eq_ok {column : Column} {cell : Cell} :
    column.accept cell.type? = .ok () ↔ column.Holds cell := by
  rw [Column.Holds, ← Cell.type?_eq_none]
  cases htype : cell.type? with
  | none => by_cases hnull : column.nullable = true <;> simp [Column.accept, hnull]
  | some found => by_cases heq : found = column.type <;> simp [Column.accept, heq]

/-- A row as long as the columns is accepted if every column can hold its cell. -/
theorem acceptRow_eq_ok {columns : List Column} {row : Row} (hlength : row.length = columns.length) :
    acceptRow columns row = .ok () ↔ List.Forall₂ Column.Holds columns row := by
  induction columns generalizing row with
  | nil =>
    obtain rfl := List.length_eq_zero_iff.1 hlength
    simp [acceptRow]
  | cons column columns ih =>
    match row with
    | [] => simp at hlength
    | cell :: row =>
      have hrest : row.length = columns.length := by simpa using hlength
      rw [acceptRow, except_bind_eq_ok, List.forall₂_cons, ← ih hrest, ← Column.accept_eq_ok]
      exact ⟨fun ⟨_, haccept, hrow⟩ => ⟨haccept, hrow⟩, fun ⟨haccept, hrow⟩ => ⟨(), haccept, hrow⟩⟩

/-! ### Making tables -/

/-- The definition says what the column is. -/
def ColumnDefinition.Makes (definition : ColumnDefinition) (column : Column) : Prop :=
  ColumnType.ofWord? definition.type.kind = some column.type ∧ column.name = definition.name.text ∧
    column.nullable = definition.nullability.takesNull

/-- Columns are added one for each definition, and their names stay distinct. -/
theorem addColumns_eq_ok {columns result : List Column} {definitions : List ColumnDefinition}
    (hnodup : (columns.map (·.name)).Nodup) :
    addColumns columns definitions = .ok result ↔
      ∃ added, List.Forall₂ ColumnDefinition.Makes definitions added ∧ result = columns ++ added ∧
        (result.map (·.name)).Nodup := by
  induction definitions generalizing columns with
  | nil =>
    simp only [addColumns, Except.ok.injEq, List.forall₂_nil_left_iff, exists_eq_left, List.append_nil]
    constructor
    · rintro rfl
      exact ⟨rfl, hnodup⟩
    · exact fun h => h.1.symm
  | cons definition definitions ih =>
    rw [addColumns]
    cases htype : ColumnType.ofWord? definition.type.kind with
    | none => simp [ColumnDefinition.Makes, List.forall₂_cons_left_iff, htype]
    | some type =>
      by_cases hused : columns.any (·.name = definition.name.text) = true
      · simp only [hused, if_true, reduceCtorEq, false_iff, not_exists]
        rintro added ⟨hmakes, rfl, hdistinct⟩
        obtain ⟨column, rest, ⟨-, hname, -⟩, -, rfl⟩ := List.forall₂_cons_left_iff.1 hmakes
        obtain ⟨old, hold, heq⟩ := List.any_eq_true.1 hused
        rw [List.map_append, List.nodup_append] at hdistinct
        refine hdistinct.2.2 old.name (List.mem_map_of_mem hold) column.name (by simp) ?_
        rw [hname]
        simpa using heq
      · let column : Column := ⟨definition.name.text, type, definition.nullability.takesNull⟩
        have hnew : ((columns ++ [column]).map (·.name)).Nodup := by
          rw [List.map_append, List.nodup_append]
          refine ⟨hnodup, by simp, ?_⟩
          simp only [List.map_cons, List.map_nil, List.mem_singleton, forall_eq, List.mem_map]
          rintro _ ⟨old, hold, rfl⟩ heq
          exact hused (List.any_eq_true.2 ⟨old, hold, by simpa using heq⟩)
        change (if columns.any (·.name = definition.name.text) = true then _ else
          addColumns (columns ++ [column]) definitions) = .ok result ↔ _
        rw [if_neg hused, ih hnew]
        constructor
        · rintro ⟨added, hmakes, rfl, hdistinct⟩
          refine ⟨column :: added, .cons ⟨htype, rfl, rfl⟩ hmakes, by simp, hdistinct⟩
        · rintro ⟨_, hall, rfl, hdistinct⟩
          obtain ⟨⟨name, columnType, nullable⟩, added, ⟨htype', rfl, rfl⟩, hmakes, rfl⟩ :=
            List.forall₂_cons_left_iff.1 hall
          obtain rfl := Option.some.inj (htype.symm.trans htype')
          exact ⟨added, hmakes, by simp [column], hdistinct⟩

/-! ### Looking up columns and tables -/

/-- Where names are distinct, each is found at the position of its column. -/
theorem Table.position?_name {table : Table} (hnodup : (table.columns.map (·.name)).Nodup) {index : Nat}
    {column : Column} (h : table.columns[index]? = some column) : table.position? column.name = some index := by
  obtain ⟨hindex, rfl⟩ := List.getElem?_eq_some_iff.1 h
  refine List.findIdx?_eq_some_iff_getElem.2 ⟨hindex, by simp, fun earlier hearlier => ?_⟩
  have hne := List.pairwise_iff_getElem.1 (List.pairwise_map.1 hnodup) earlier index (by omega) hindex hearlier
  simpa using hne

namespace Catalog

theorem mem_of_table? {catalog : Catalog} {name : String} {table : Table}
    (h : catalog.table? name = some table) : (name, table) ∈ catalog.entries := by
  obtain ⟨front, back, heq, -⟩ := List.lookup_eq_some_iff.1 h
  rw [heq]
  simp

theorem find_eq_ok {catalog : Catalog} {name : String} {table : Table} :
    catalog.find name = .ok table ↔ catalog.table? name = some table := by
  rw [find]
  cases catalog.table? name <;> simp

/-! ### One lemma for each statement -/

theorem createTable_eq_ok {catalog : Catalog} {s : CreateTable} {result : Outcome × Catalog} :
    catalog.createTable s = .ok result ↔
      catalog.table? s.name.text = none ∧ ∃ columns, addColumns [] s.columns = .ok columns ∧
        result = (.created, catalog.put s.name.text ⟨columns, []⟩) := by
  rw [createTable]
  cases htable : catalog.table? s.name.text with
  | some table => simp [bind, Except.bind, throw, throwThe, MonadExceptOf.throw]
  | none =>
    simp only [Option.isSome_none, Bool.false_eq_true, if_false, except_bind_eq_ok, except_pure_eq_ok, true_and]
    exact ⟨fun ⟨columns, hadd, h⟩ => ⟨columns, hadd, h.symm⟩, fun ⟨columns, hadd, h⟩ => ⟨columns, hadd, h.symm⟩⟩

theorem dropTable_eq_ok {catalog : Catalog} {s : DropTable} {result : Outcome × Catalog} :
    catalog.dropTable s = .ok result ↔
      (catalog.table? s.name.text).isSome = true ∧ result = (.dropped, catalog.erase s.name.text) := by
  rw [dropTable]
  by_cases hsome : (catalog.table? s.name.text).isSome = true <;> simp [hsome, eq_comm]

end Catalog

/-- The cell that an expression without names stands for. -/
def Expression.literal (e : Expression) : Except StatementError Cell := do
  (← BoundExpression.ofExpression none e).evaluate []

/-- The row of an INSERT has one value for each column, and the columns can hold them. -/
theorem Table.newRow_eq_ok {table : Table} {values : List Expression} {row : Row} :
    table.newRow values = .ok row ↔
      values.length = table.columns.length ∧ List.Forall₂ (fun e cell => e.literal = .ok cell) values row ∧
        List.Forall₂ Column.Holds table.columns row := by
  rw [newRow]
  by_cases hless : values.length < table.columns.length
  · simp only [hless, if_true, throw, throwThe, MonadExceptOf.throw, bind, Except.bind, reduceCtorEq, false_iff]
    omega
  · by_cases hmore : values.length > table.columns.length
    · simp only [hless, hmore, if_true, if_false, throw, throwThe, MonadExceptOf.throw, bind, Except.bind,
        reduceCtorEq, false_iff]
      omega
    · have hlength : values.length = table.columns.length := by omega
      change (if _ then _ else if _ then _ else values.mapM Expression.literal >>= _) = Except.ok row ↔ _
      rw [if_neg hless, if_neg hmore]
      simp only [except_bind_eq_ok, except_pure_eq_ok, hlength, true_and]
      constructor
      · rintro ⟨cells, hcells, ⟨⟩, haccept, rfl⟩
        have hforall := mapM_eq_ok.1 hcells
        refine ⟨hforall, (acceptRow_eq_ok ?_).1 haccept⟩
        rw [← hforall.length_eq, hlength]
      · rintro ⟨hforall, hholds⟩
        exact ⟨row, mapM_eq_ok.2 hforall, (), (acceptRow_eq_ok hholds.length_eq.symm).2 hholds, rfl⟩

/-! ### Changing rows -/

theorem filterRows_eq_ok {test : Row → Except StatementError Bool} {rows kept : List Row} :
    filterRows test rows = .ok kept ↔
      ∃ flags, List.Forall₂ (fun row flag => test row = .ok flag) rows flags ∧
        kept = ((rows.zip flags).filter (·.2)).map (·.1) := by
  induction rows generalizing kept with
  | nil => simp [filterRows, eq_comm]
  | cons row rows ih =>
    simp only [filterRows, except_bind_eq_ok, except_pure_eq_ok, ih, List.forall₂_cons_left_iff]
    constructor
    · rintro ⟨flag, hflag, rest, ⟨flags, hflags, rfl⟩, rfl⟩
      refine ⟨flag :: flags, ⟨flag, flags, hflag, hflags, rfl⟩, ?_⟩
      cases flag <;> simp
    · rintro ⟨_, ⟨flag, flags, hflag, hflags, rfl⟩, rfl⟩
      refine ⟨flag, hflag, _, ⟨flags, hflags, rfl⟩, ?_⟩
      cases flag <;> simp

theorem mem_of_filterRows {test : Row → Except StatementError Bool} {rows kept : List Row}
    (h : filterRows test rows = .ok kept) : ∀ row ∈ kept, row ∈ rows := by
  obtain ⟨flags, -, rfl⟩ := filterRows_eq_ok.1 h
  intro row hrow
  obtain ⟨pair, hpair, rfl⟩ := List.mem_map.1 hrow
  exact (List.of_mem_zip (List.mem_filter.1 hpair).1).1

namespace Table

theorem length_assign {old row updated : Row} {targets : List Target}
    (h : assign old targets row = .ok updated) : updated.length = row.length := by
  induction targets generalizing row with
  | nil =>
    obtain rfl := Except.ok.inj h
    rfl
  | cons target targets ih =>
    obtain ⟨cell, -, hset⟩ := except_bind_eq_ok.1 h
    split at hset
    · rw [ih hset, List.length_set]
    · simp at hset

theorem updatedRow?_eq_ok {table : Table} {condition : Option BoundExpression} {targets : List Target} {row : Row}
    {new : Option Row} :
    table.updatedRow? condition targets row = .ok new ↔
      BoundExpression.admits condition row = .ok false ∧ new = none ∨
        BoundExpression.admits condition row = .ok true ∧ ∃ updated, assign row targets row = .ok updated ∧
          acceptRow table.columns updated = .ok () ∧ new = some updated := by
  simp only [updatedRow?, except_bind_eq_ok]
  constructor
  · rintro ⟨flag, hflag, h⟩
    cases flag with
    | false => exact .inl ⟨hflag, (except_pure_eq_ok.1 h).symm⟩
    | true =>
      simp only [if_true, except_bind_eq_ok, except_pure_eq_ok] at h
      obtain ⟨updated, hassign, ⟨⟩, haccept, rfl⟩ := h
      exact .inr ⟨hflag, updated, hassign, haccept, rfl⟩
  · rintro (⟨hflag, rfl⟩ | ⟨hflag, updated, hassign, haccept, rfl⟩)
    · exact ⟨false, hflag, rfl⟩
    · refine ⟨true, hflag, ?_⟩
      simp only [if_true, except_bind_eq_ok, except_pure_eq_ok]
      exact ⟨updated, hassign, (), haccept, rfl⟩

end Table

namespace Catalog

theorem insert_eq_ok {catalog : Catalog} {s : Insert} {result : Outcome × Catalog} :
    catalog.insert s = .ok result ↔
      ∃ table rows, catalog.table? s.table.text = some table ∧
        List.Forall₂ (fun values row => table.newRow values = .ok row) s.rows rows ∧
        result = (.inserted rows.length, catalog.put s.table.text { table with rows := table.rows ++ rows }) := by
  simp only [insert, except_bind_eq_ok, except_pure_eq_ok, find_eq_ok, mapM_eq_ok]
  constructor
  · rintro ⟨table, htable, rows, hrows, rfl⟩
    exact ⟨table, rows, htable, hrows, rfl⟩
  · rintro ⟨table, rows, htable, hrows, rfl⟩
    exact ⟨table, htable, rows, hrows, rfl⟩

theorem delete_eq_ok {catalog : Catalog} {s : Delete} {result : Outcome × Catalog} :
    catalog.delete s = .ok result ↔
      ∃ table condition kept, catalog.table? s.table.text = some table ∧
        BoundExpression.ofCondition table s.condition = .ok condition ∧
        filterRows (fun row => do return !(← BoundExpression.admits condition row)) table.rows = .ok kept ∧
        result = (.deleted (table.rows.length - kept.length),
          catalog.put s.table.text { table with rows := kept }) := by
  simp only [delete, except_bind_eq_ok, except_pure_eq_ok, find_eq_ok]
  constructor
  · rintro ⟨table, htable, condition, hcondition, kept, hkept, rfl⟩
    exact ⟨table, condition, kept, htable, hcondition, hkept, rfl⟩
  · rintro ⟨table, condition, kept, htable, hcondition, hkept, rfl⟩
    exact ⟨table, htable, condition, hcondition, kept, hkept, rfl⟩

theorem update_eq_ok {catalog : Catalog} {s : Update} {result : Outcome × Catalog} :
    catalog.update s = .ok result ↔
      ∃ table targets condition updated, catalog.table? s.table.text = some table ∧
        table.bindAssignments [] s.assignments = .ok targets ∧
        BoundExpression.ofCondition table s.condition = .ok condition ∧
        List.Forall₂ (fun row new => table.updatedRow? condition targets row = .ok new) table.rows updated ∧
        result = (.updated (updated.countP (·.isSome)), catalog.put s.table.text
          { table with rows := table.rows.zipWith (fun row new => new.getD row) updated }) := by
  simp only [update, except_bind_eq_ok, except_pure_eq_ok, find_eq_ok, mapM_eq_ok]
  constructor
  · rintro ⟨table, htable, targets, htargets, condition, hcondition, updated, hupdated, rfl⟩
    exact ⟨table, targets, condition, updated, htable, htargets, hcondition, hupdated, rfl⟩
  · rintro ⟨table, targets, condition, updated, htable, htargets, hcondition, hupdated, rfl⟩
    exact ⟨table, htable, targets, htargets, condition, hcondition, updated, hupdated, rfl⟩

theorem step_of_execute_eq_ok {catalog after : Catalog} {s : Statement} {outcome : Outcome}
    (h : catalog.execute s = .ok (outcome, after)) : catalog.step s = (.ok outcome, after) := by
  rw [step, h]

/-- A statement that fails changes nothing. -/
theorem step_of_execute_eq_error {catalog : Catalog} {s : Statement} {e : StatementError}
    (h : catalog.execute s = .error e) : catalog.step s = (.error e, catalog) := by
  rw [step, h]

theorem step_eq_ok_iff {catalog after : Catalog} {s : Statement} {outcome : Outcome} :
    catalog.step s = (.ok outcome, after) ↔ catalog.execute s = .ok (outcome, after) := by
  rw [step]
  cases catalog.execute s <;> simp [Prod.ext_iff]

theorem step_eq_error_iff {catalog : Catalog} {s : Statement} {e : StatementError} :
    (catalog.step s).1 = .error e ↔ catalog.execute s = .error e := by
  rw [step]
  cases catalog.execute s <;> simp

theorem run_cons (catalog : Catalog) (s : Statement) (statements : List Statement) :
    catalog.run (s :: statements) = ((catalog.step s).1 :: ((catalog.step s).2.run statements).1,
      ((catalog.step s).2.run statements).2) :=
  rfl

/-- Every statement reports something. -/
theorem length_run (catalog : Catalog) (statements : List Statement) :
    (catalog.run statements).1.length = statements.length := by
  induction statements generalizing catalog with
  | nil => rfl
  | cons s statements ih => rw [run_cons, List.length_cons, List.length_cons, ih]

end Catalog

end SqlShell
