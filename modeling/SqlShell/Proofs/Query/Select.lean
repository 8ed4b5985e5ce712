import SqlShell.Proofs.Query.Reference
/-!
# Executing a SELECT

The clauses of a SELECT are executed one after another. Each of them gives what the reference semantics says, or the one
error that a sound expression can give, so the whole SELECT does.
-/

namespace SqlShell

variable {table : Table} {bound : BoundSelect} {rows : List Row}

/-! ### Sorting -/

theorem sortRows_eq_error {keys : List Key} (h : ∀ key ∈ keys, key.1.Sound table.columns)
    (hrows : ∀ row ∈ rows, List.Forall₂ Column.Holds table.columns row)
    (hoverflow : ∃ row ∈ rows, ∃ key ∈ keys, key.1.Overflows row) :
    sortRows keys rows = .error (.negationOverflow Int64.minValue) := by
  have hkeyed := mapM_rows_eq_error (keys.map (·.1)) (fun row values => (values, row))
    (List.forall_mem_map.2 h) hrows (by simpa using hoverflow)
  simp only [List.mapM_map, Function.comp_def] at hkeyed
  rw [sortRows, hkeyed]
  rfl

theorem BoundSelect.transCmp (bound : BoundSelect) :
    Std.TransCmp fun a b => compareKeys (bound.keys.map (·.2)) (bound.keyValues a) (bound.keyValues b) := by
  have h := transCmp_compareKeys (bound.keys.map (·.2)) (bound.keys.map fun key => key.1.value)
  simp only [List.map_map, Function.comp_def] at h
  exact h

/-- The rows as they are sorted. -/
def BoundSelect.ordered (bound : BoundSelect) (rows : List Row) : List Row :=
  rows.mergeSort fun a b => (compareKeys (bound.keys.map (·.2)) (bound.keyValues a) (bound.keyValues b)).isLE

theorem sortRows_eq_ok (h : ∀ key ∈ bound.keys, key.1.Sound table.columns)
    (hrows : ∀ row ∈ rows, List.Forall₂ Column.Holds table.columns row)
    (hfine : ¬∃ row ∈ rows, ∃ key ∈ bound.keys, key.1.Overflows row) :
    sortRows bound.keys rows = .ok (bound.ordered rows) := by
  have hkeyed := mapM_rows_eq_ok (bound.keys.map (·.1)) (fun row values => (values, row))
    (List.forall_mem_map.2 h) hrows (by simpa using hfine)
  simp only [List.mapM_map, Function.comp_def, List.map_map] at hkeyed
  have hsorted : (bound.ordered rows).map (fun row => (bound.keyValues row, row)) =
      (rows.map fun row => (bound.keyValues row, row)).mergeSort
        fun a b => (compareKeys (bound.keys.map (·.2)) a.1 b.1).isLE :=
    List.map_mergeSort fun _ _ _ _ => rfl
  have hrowsBack : ((bound.ordered rows).map fun row => (bound.keyValues row, row)).map (·.2) = bound.ordered rows := by
    rw [List.map_map]
    exact List.map_id _
  rw [sortRows, hkeyed, ← hrowsBack, hsorted]
  rfl

/-- Sorting arranges the rows by the keys. -/
theorem BoundSelect.Sound.arranges_ordered (h : bound.Sound table)
    (hrows : ∀ row ∈ rows, List.Forall₂ Column.Holds table.columns row) : bound.Arranges rows (bound.ordered rows) := by
  have htypes (row : Row) (hrow : row ∈ rows) :
      List.Forall₂ Cell.IsOf (bound.keyValues row) (bound.keys.map (·.1.type)) :=
    forall₂_map_map fun key hkey => (h.keys key hkey).value_isOf (hrows row hrow)
  have hlength (row : Row) : (bound.keyValues row).length = (bound.keys.map (·.2)).length := by
    rw [keyValues, List.length_map, List.length_map]
  have htrans := bound.transCmp
  exact stablySorted_mergeSort
    (fun a ha b hb hlt => keysBefore_of_compareKeys (htypes a ha) (htypes b hb) hlt)
    (fun a b => compareKeys_eq_eq (hlength a) (hlength b))

/-! ### The whole statement -/

theorem bindKeys {order : List SortKey} {keys : List Key} (h : List.Forall₂ (SortKey.BindsTo table) order keys) :
    (order.mapM fun written => (do
      return (← BoundExpression.ofExpression (some table) written.expression, written.descending) :
        Except StatementError Key)) = .ok keys := by
  refine mapM_eq_ok.2 (h.imp fun written key hkey => ?_)
  rw [hkey.1, ← hkey.2]
  rfl

theorem ordered_of_isEmpty (h : bound.keys.isEmpty = true) (rows : List Row) : bound.ordered rows = rows := by
  have hkeys : bound.keys = [] := List.isEmpty_iff.1 h
  refine List.mergeSort_of_pairwise (List.pairwise_of_forall_mem_list fun a _ b _ => ?_)
  rw [hkeys]
  rfl

/-- The rows that match are put in order even where there is nothing to sort them by. -/
theorem ordered_eq_ok (h : bound.Sound table) (hrows : ∀ row ∈ rows, List.Forall₂ Column.Holds table.columns row)
    (hfine : ¬∃ row ∈ rows, ∃ key ∈ bound.keys, key.1.Overflows row) :
    (if bound.keys.isEmpty then pure rows else sortRows bound.keys rows) = .ok (bound.ordered rows) := by
  by_cases hempty : bound.keys.isEmpty = true
  · rw [if_pos hempty, ordered_of_isEmpty hempty]
    rfl
  · rw [if_neg hempty]
    exact sortRows_eq_ok h.keys hrows hfine

theorem ordered_eq_error (h : bound.Sound table) (hrows : ∀ row ∈ rows, List.Forall₂ Column.Holds table.columns row)
    (hoverflow : ∃ row ∈ rows, ∃ key ∈ bound.keys, key.1.Overflows row) :
    (if bound.keys.isEmpty then pure rows else sortRows bound.keys rows) =
      .error (.negationOverflow Int64.minValue) := by
  have hne : ¬bound.keys.isEmpty = true := by
    obtain ⟨_, -, key, hkey, -⟩ := hoverflow
    rw [List.isEmpty_iff]
    exact List.ne_nil_of_mem hkey
  rw [if_neg hne]
  exact sortRows_eq_error h.keys hrows hoverflow

/-- The result columns on each row. -/
def BoundSelect.project? (bound : BoundSelect) (rows : List Row) : Except StatementError (List Row) :=
  rows.mapM fun row => bound.columns.mapM (·.evaluate row)

/-- A SELECT whose expressions are bound works on the rows that match. -/
theorem Catalog.select_eq {catalog : Catalog} (hcatalog : catalog.WellFormed) {s : Select}
    (htable : catalog.table? s.table.text = some table) (h : s.BindsTo table bound) :
    catalog.select s =
      (if bound.keys.isEmpty then pure (bound.matching table.rows)
        else sortRows bound.keys (bound.matching table.rows)) >>=
          fun ordered => bound.project? ordered >>=
            fun rows => .ok ⟨bound.headings (s.resultColumns table), rows⟩ := by
  have htableWellFormed := hcatalog.table htable
  have hfind : catalog.find s.table.text = .ok table := find_eq_ok.2 htable
  have hprojections := Table.projections_eq_ok htableWellFormed.names_nodup h.columns 0
  have hmatching := h.sound.filterRows htableWellFormed.rows_fit
  have hkeys := bindKeys h.keys
  have hcolumns (row : Row) :
      (ResultColumn.projections 0 (s.resultColumns table) bound.columns).mapM (·.2.evaluate row) =
        bound.columns.mapM (·.evaluate row) := by
    have hsnd := ResultColumn.projections_map_snd 0 h.columns.length_eq
    conv => rhs; rw [← hsnd]
    rw [List.mapM_map]
    rfl
  have hok {α β : Type} (a : α) (f : α → Except StatementError β) : Except.ok a >>= f = f a := rfl
  rw [select, hfind, hok, hprojections]
  simp only [hok, h.condition, hkeys, hmatching]
  change (if bound.keys.isEmpty then _ else _) = _
  have hheadings : (ResultColumn.projections 0 (s.resultColumns table) bound.columns).map (·.1) =
      bound.headings (s.resultColumns table) := by
    rw [ResultColumn.projections, List.map_map]
    rfl
  simp only [Select.resultColumns] at hcolumns hheadings
  simp only [hcolumns, hheadings]
  split <;> rfl

theorem BoundSelect.Sound.project_eq_ok (h : bound.Sound table)
    (hrows : ∀ row ∈ rows, List.Forall₂ Column.Holds table.columns row)
    (hfine : ¬∃ row ∈ rows, ∃ column ∈ bound.columns, column.Overflows row) :
    bound.project? rows = .ok (rows.map bound.project) := by
  have hmade := mapM_rows_eq_ok bound.columns (fun _ values => values) h.columns hrows hfine
  simp only [bind_pure] at hmade
  exact hmade

theorem BoundSelect.Sound.project_eq_error (h : bound.Sound table)
    (hrows : ∀ row ∈ rows, List.Forall₂ Column.Holds table.columns row)
    (hoverflow : ∃ row ∈ rows, ∃ column ∈ bound.columns, column.Overflows row) :
    bound.project? rows = .error (.negationOverflow Int64.minValue) := by
  have hmade := mapM_rows_eq_error bound.columns (fun _ values => values) h.columns hrows hoverflow
  simp only [bind_pure] at hmade
  exact hmade

/-- The cells of a result row are of the types in the headings. -/
theorem BoundSelect.Sound.holds_project (h : bound.Sound table) {columns : List ResultColumn}
    (hlength : columns.length = bound.columns.length) {row : Row} (hrow : List.Forall₂ Column.Holds table.columns row) :
    List.Forall₂ Heading.Holds (bound.headings columns) (bound.project row) := by
  refine List.forall₂_iff_get.2 ⟨by simp [headings, project, hlength], fun position hposition hposition' => ?_⟩
  have hcolumn : position < bound.columns.length := by simpa [project] using hposition'
  have hvalue := (h.columns _ (List.getElem_mem hcolumn)).value_isOf hrow
  simpa [headings, project, Heading.Holds, ResultColumn.heading] using hvalue.getD .text

/-! ### The outcomes of a SELECT -/

theorem BoundSelect.ordered_perm (bound : BoundSelect) (rows : List Row) : (bound.ordered rows).Perm rows :=
  List.mergeSort_perm ..

theorem BoundSelect.matching_holds (bound : BoundSelect)
    (hrows : ∀ row ∈ rows, List.Forall₂ Column.Holds table.columns row) :
    ∀ row ∈ bound.matching rows, List.Forall₂ Column.Holds table.columns row :=
  fun row hrow => hrows row (List.mem_filter.1 hrow).1

theorem BoundSelect.ordered_holds (bound : BoundSelect)
    (hrows : ∀ row ∈ rows, List.Forall₂ Column.Holds table.columns row) :
    ∀ row ∈ bound.ordered rows, List.Forall₂ Column.Holds table.columns row :=
  fun row hrow => hrows row ((bound.ordered_perm rows).mem_iff.1 hrow)

section Outcomes

variable {catalog : Catalog} {s : Select} (hcatalog : catalog.WellFormed)
  (htable : catalog.table? s.table.text = some table) (h : s.BindsTo table bound)

include hcatalog htable h

/-- The keys are evaluated on all rows before any column is, but the error is the same. -/
theorem Catalog.select_eq_error (hoverflow : ∃ row ∈ bound.matching table.rows, bound.Overflows row) :
    catalog.select s = .error (.negationOverflow Int64.minValue) := by
  have hfit := bound.matching_holds (hcatalog.table htable).rows_fit
  rw [select_eq hcatalog htable h]
  by_cases hkeys : ∃ row ∈ bound.matching table.rows, ∃ key ∈ bound.keys, key.1.Overflows row
  · rw [ordered_eq_error h.sound hfit hkeys]
    rfl
  · obtain ⟨row, hrow, hoverflows⟩ := hoverflow
    have hcolumns : ∃ column ∈ bound.columns, column.Overflows row :=
      hoverflows.resolve_left fun hkey => hkeys ⟨row, hrow, hkey⟩
    have hrow' := (bound.ordered_perm (bound.matching table.rows)).mem_iff.2 hrow
    have hproject := h.sound.project_eq_error (bound.ordered_holds hfit) ⟨row, hrow', hcolumns⟩
    rw [ordered_eq_ok h.sound hfit hkeys]
    show (bound.project? _ >>= _) = _
    rw [hproject]
    rfl

theorem Catalog.select_eq_ok (hfine : ¬∃ row ∈ bound.matching table.rows, bound.Overflows row) :
    catalog.select s = .ok ⟨bound.headings (s.resultColumns table),
      (bound.ordered (bound.matching table.rows)).map bound.project⟩ := by
  have hfit := bound.matching_holds (hcatalog.table htable).rows_fit
  have hkeys : ¬∃ row ∈ bound.matching table.rows, ∃ key ∈ bound.keys, key.1.Overflows row :=
    fun ⟨row, hrow, hkey⟩ => hfine ⟨row, hrow, .inl hkey⟩
  have hcolumns : ¬∃ row ∈ bound.ordered (bound.matching table.rows),
      ∃ column ∈ bound.columns, column.Overflows row :=
    fun ⟨row, hrow, hcolumn⟩ => hfine ⟨row, (bound.ordered_perm _).mem_iff.1 hrow, .inr hcolumn⟩
  rw [select_eq hcatalog htable h, ordered_eq_ok h.sound hfit hkeys]
  show (bound.project? _ >>= _) = _
  rw [h.sound.project_eq_ok (bound.ordered_holds hfit) hcolumns]
  rfl

end Outcomes

/-- The executor follows the reference semantics: a SELECT fails with an overflow if a key or a column overflows on a
row that matches; otherwise it gives the columns of the rows that match, in their only arrangement by the keys, and
every cell is NULL or of the type in its heading. The catalog stays as it is. -/
theorem Catalog.step_select_eq_reference {catalog : Catalog} (hcatalog : catalog.WellFormed) {s : Select}
    {table : Table} (htable : catalog.table? s.table.text = some table) (hresolves : s.Resolves table) :
    ∃ bound, s.BindsTo table bound ∧
      ((∃ row ∈ bound.matching table.rows, bound.Overflows row) →
        catalog.step (.select s) = (.error (.negationOverflow Int64.minValue), catalog)) ∧
      ((¬∃ row ∈ bound.matching table.rows, bound.Overflows row) →
        ∃ ordered, bound.Arranges (bound.matching table.rows) ordered ∧
          (∀ other, bound.Arranges (bound.matching table.rows) other → other = ordered) ∧
          catalog.step (.select s) =
            (.ok (.selected ⟨bound.headings (s.resultColumns table), ordered.map bound.project⟩), catalog) ∧
          ∀ row ∈ ordered.map bound.project,
            List.Forall₂ Heading.Holds (bound.headings (s.resultColumns table)) row) := by
  obtain ⟨bound, h⟩ := hresolves.exists_bindsTo (hcatalog.table htable).names_nodup
  have hfit := bound.matching_holds (hcatalog.table htable).rows_fit
  refine ⟨bound, h, fun hoverflow => ?_, fun hfine => ?_⟩
  · have herror := select_eq_error hcatalog htable h hoverflow
    exact step_of_execute_eq_error (by rw [execute, herror]; rfl)
  · have hok := select_eq_ok hcatalog htable h hfine
    have harranges := h.sound.arranges_ordered hfit
    refine ⟨_, harranges, fun other hother => harranges.unique hother, ?_, fun row hrow => ?_⟩
    · exact step_of_execute_eq_ok (by rw [execute, hok]; rfl)
    · obtain ⟨source, hsource, rfl⟩ := List.mem_map.1 hrow
      exact h.sound.holds_project h.columns.length_eq (bound.ordered_holds hfit source hsource)

theorem Catalog.step_select_eq_reference_of_ties :
    let word (name : String) : Token := ⟨.identifier name, Location.start⟩
    let table : Table := ⟨[⟨"a", .int, true⟩, ⟨"b", .text, false⟩],
      [[.int 1, .text "x"], [.null, .text "y"], [.int 1, .text "z"], [.int 2, .text "x"]]⟩
    let catalog : Catalog := ⟨[("t", table)], List.pairwise_singleton _ _⟩
    let s : Select := ⟨[.star ⟨.symbol .asterisk, Location.start⟩,
      .expression (.unary [⟨.symbol .minus, Location.start⟩] (.term (word "a"))) none], word "t", none, none,
      [⟨.term (word "a"), true⟩]⟩
    ∃ bound ordered, s.BindsTo table bound ∧ bound.Arranges (bound.matching table.rows) ordered ∧
      catalog.step (.select s) =
        (.ok (.selected ⟨bound.headings (s.resultColumns table), ordered.map bound.project⟩), catalog) := by
  intro word table catalog s
  have hcatalog : catalog.WellFormed := by
    intro entry hentry
    obtain rfl := List.mem_singleton.1 hentry
    refine ⟨by simp [table], by simp [table], ?_⟩
    simp [table, Column.Holds, Cell.type?]
  have hresolves : s.Resolves table := by
    refine ⟨fun e columnAlias hmem => ?_, ⟨none, rfl⟩, fun key hkey => ?_⟩
    · obtain ⟨rfl, rfl⟩ : e = .unary [⟨.symbol .minus, Location.start⟩] (.term (word "a")) ∧ columnAlias = none := by
        simpa [s] using hmem
      exact ⟨_, rfl⟩
    · obtain rfl := List.mem_singleton.1 hkey
      exact ⟨_, rfl⟩
  let number : BoundExpression := ⟨.column 0, [], some .int, some "a"⟩
  have hbinds : s.BindsTo table
      ⟨[number, ⟨.column 1, [], some .text, some "b"⟩, ⟨.column 0, [.negate], some .int, none⟩], none,
        [(number, true)]⟩ :=
    ⟨.cons rfl (.cons rfl (.cons rfl .nil)), rfl, .cons ⟨rfl, rfl⟩ .nil⟩
  obtain ⟨bound, hbound, -, hfine⟩ := step_select_eq_reference hcatalog (by rfl) hresolves
  obtain rfl := hbinds.unique hbound
  obtain ⟨ordered, harranges, -, hstep, -⟩ := hfine (by
    simp only [BoundSelect.matching, BoundSelect.Overflows, BoundExpression.Overflows, table]
    decide)
  exact ⟨_, ordered, hbound, harranges, hstep⟩

end SqlShell
