import SqlShell.Proofs.Execution.Typing
import SqlShell.Proofs.Execution.WellFormed
/-!
# How statements fail

`FailsOnly kind x` says that the computation `x` can only fail with errors of a kind. Binding an expression never reads
behind the columns, and once everything is bound to the columns of a well-formed table, going through the rows can only
overflow, or in an UPDATE come upon a NULL that a column does not take (`Table.failsOnly_updatedRow?`).
-/

namespace SqlShell

variable {α β : Type}

/-- The computation can only fail with errors of the kind. -/
def FailsOnly (kind : StatementError → Prop) (x : Except StatementError α) : Prop :=
  ∀ e, x = .error e → kind e

namespace FailsOnly

variable {kind other : StatementError → Prop} {x : Except StatementError α}

theorem ok (a : α) : FailsOnly kind (.ok a : Except StatementError α) :=
  nofun

theorem error {e : StatementError} (h : kind e) : FailsOnly kind (.error e : Except StatementError α) := by
  rintro _ ⟨⟩
  exact h

theorem mono (h : FailsOnly kind x) (hkind : ∀ e, kind e → other e) : FailsOnly other x :=
  fun e he => hkind e (h e he)

theorem bind {f : α → Except StatementError β} (h : FailsOnly kind x) (hf : ∀ a, x = .ok a → FailsOnly kind (f a)) :
    FailsOnly kind (x >>= f) := by
  cases x with
  | error e =>
    rintro _ ⟨⟩
    exact h e rfl
  | ok a => exact hf a rfl

theorem map {f : α → β} (h : FailsOnly kind x) : FailsOnly kind (x >>= fun a => pure (f a)) :=
  h.bind fun _ _ => ok _

theorem mapM {f : α → Except StatementError β} {as : List α} (h : ∀ a ∈ as, FailsOnly kind (f a)) :
    FailsOnly kind (as.mapM f) := by
  induction as with
  | nil => exact ok []
  | cons a as ih =>
    rw [List.mapM_cons]
    exact (h a List.mem_cons_self).bind fun _ _ => (ih fun c hc => h c (List.mem_cons_of_mem _ hc)).map

theorem filterRows {test : Row → Except StatementError Bool} {rows : List Row}
    (h : ∀ row ∈ rows, FailsOnly kind (test row)) : FailsOnly kind (filterRows test rows) := by
  induction rows with
  | nil => exact ok []
  | cons row rows ih =>
    rw [SqlShell.filterRows]
    exact (h row List.mem_cons_self).bind fun _ _ => (ih fun c hc => h c (List.mem_cons_of_mem _ hc)).map

end FailsOnly

/-- The least int is negated. -/
def StatementError.IsOverflow : StatementError → Prop
  | .negationOverflow _ => True
  | _ => False

/-- A column does not take NULL. -/
def StatementError.IsNullConstraint : StatementError → Prop
  | .nullConstraint _ => True
  | _ => False

/-- No position behind the end of a row or of the columns was used. -/
def StatementError.IsInBounds : StatementError → Prop
  | .outOfBounds => False
  | _ => True

theorem StatementError.IsOverflow.isInBounds {e : StatementError} (h : e.IsOverflow) : e.IsInBounds := by
  cases e <;> trivial

theorem StatementError.IsNullConstraint.isInBounds {e : StatementError} (h : e.IsNullConstraint) : e.IsInBounds := by
  cases e <;> trivial

/-! ### Binding -/

theorem Table.getElem?_of_position? {table : Table} {name : String} {index : Nat}
    (h : table.position? name = some index) : ∃ column, table.columns[index]? = some column := by
  obtain ⟨hindex, -⟩ := List.findIdx?_eq_some_iff_getElem.1 h
  exact ⟨_, List.getElem?_eq_getElem hindex⟩

namespace BoundExpression

open StatementError

theorem inBounds_ofNumeral (text : String) (negative : Bool) : FailsOnly IsInBounds (ofNumeral text negative) := by
  rw [ofNumeral]
  split
  · exact .ok _
  · exact .error trivial

theorem inBounds_ofTerm (table : Option Table) (kind : Token.Kind) : FailsOnly IsInBounds (ofTerm table kind) := by
  unfold ofTerm
  split
  · next name =>
    cases table with
    | none => exact .error trivial
    | some table =>
      dsimp only
      split
      · exact .error trivial
      · next index hindex =>
        obtain ⟨column, hcolumn⟩ := Table.getElem?_of_position? hindex
        rw [hcolumn]
        exact .ok _
  · exact inBounds_ofNumeral _ _
  · exact .ok _
  · exact .ok _
  · exact .ok _
  · exact .error trivial

theorem inBounds_underOperator (bound : BoundExpression) (token : Token) :
    FailsOnly IsInBounds (bound.underOperator token) := by
  rw [underOperator]
  split
  · exact .error trivial
  · dsimp only
    split
    · exact .ok _
    · split
      · exact .ok _
      · exact .error trivial

theorem inBounds_underOperators (bound : BoundExpression) (tokens : List Token) :
    FailsOnly IsInBounds (bound.underOperators tokens) := by
  induction tokens generalizing bound with
  | nil => exact .ok _
  | cons token tokens ih => exact (inBounds_underOperator bound token).bind fun under _ => ih under

theorem inBounds_ofExpression (table : Option Table) (e : Expression) :
    FailsOnly IsInBounds (ofExpression table e) := by
  induction e with
  | term token => exact inBounds_ofTerm table token.kind
  | unary operators operand ih =>
    rw [ofExpression]
    split
    · exact (inBounds_ofNumeral _ true).bind fun numeral _ => inBounds_underOperators numeral _
    · exact ih.bind fun inner _ => inBounds_underOperators inner _
  | binary operator left right => exact .error trivial

theorem inBounds_ofCondition (table : Table) (condition : Option Expression) :
    FailsOnly IsInBounds (ofCondition table condition) := by
  cases condition with
  | none => exact .ok _
  | some e =>
    refine (inBounds_ofExpression _ e).bind fun bound _ => ?_
    split
    · exact .ok _
    · exact .error trivial

/-! ### Evaluating -/

theorem inBounds_apply (operator : PrefixOperator) (cell : Cell) : FailsOnly IsInBounds (operator.apply cell) := by
  unfold PrefixOperator.apply
  split
  · exact .ok _
  · exact .ok _
  · split
    · exact .error trivial
    · exact .ok _
  · exact .ok _
  · exact .error trivial

theorem inBounds_evaluate (bound : BoundExpression) (row : Row) : FailsOnly IsInBounds (bound.evaluate row) := by
  rw [evaluate]
  generalize bound.operand.value row = cell
  induction bound.operators generalizing cell with
  | nil => exact .ok cell
  | cons operator operators ih => exact (inBounds_apply operator cell).bind fun value _ => ih value

variable {columns : List Column} {bound : BoundExpression} {row : Row}

theorem Sound.failsOnly_evaluate (h : bound.Sound columns) (hrow : List.Forall₂ Column.Holds columns row) :
    FailsOnly IsOverflow (bound.evaluate row) := by
  rcases h row hrow with ⟨cell, hcell, -⟩ | ⟨-, hoverflow⟩
  · rw [hcell]
    exact .ok cell
  · rw [hoverflow]
    exact .error trivial

theorem failsOnly_admits {table : Table} {condition : Option Expression} {bound : Option BoundExpression}
    (h : ofCondition table condition = .ok bound) (hrow : List.Forall₂ Column.Holds table.columns row) :
    FailsOnly IsOverflow (admits bound row) := by
  cases bound with
  | none => exact .ok true
  | some bound => exact ((sound_of_ofCondition h).1.failsOnly_evaluate hrow).map

end BoundExpression

/-! ### Storing rows -/

open StatementError

/-- A value of the column's type, or NULL, can at most be a NULL that the column does not take. -/
theorem Column.failsOnly_accept {column : Column} {cell : Cell} (h : cell.IsOf (some column.type)) :
    FailsOnly IsNullConstraint (column.accept cell.type?) := by
  rcases h with rfl | htype
  · show FailsOnly _ (if column.nullable then .ok () else .error _)
    split
    · exact .ok ()
    · exact .error trivial
  · rw [htype]
    show FailsOnly _ (if column.type = column.type then .ok () else .error _)
    rw [if_pos rfl]
    exact .ok ()

theorem Column.inBounds_accept (column : Column) (type : Option ColumnType) :
    FailsOnly IsInBounds (column.accept type) := by
  unfold accept
  split <;> split <;> first | exact .ok () | exact .error trivial

theorem Column.eq_of_accept_eq_ok (column : Column) {found : ColumnType} (h : column.accept (some found) = .ok ()) :
    found = column.type := by
  by_cases heq : found = column.type
  · exact heq
  · simp [accept, heq] at h

/-- There is one cell for each column, and it is of the column's type or NULL. -/
def TypedRow (columns : List Column) (row : Row) : Prop :=
  List.Forall₂ (fun column cell => Cell.IsOf cell (some column.type)) columns row

theorem TypedRow.set {columns : List Column} {row : Row} (h : TypedRow columns row) {index : Nat} {column : Column}
    {cell : Cell} (hcolumn : columns[index]? = some column) (hcell : cell.IsOf (some column.type)) :
    TypedRow columns (row.set index cell) :=
  forall₂_set h hcolumn hcell

theorem failsOnly_acceptRow {columns : List Column} {row : Row} (h : TypedRow columns row) :
    FailsOnly IsNullConstraint (acceptRow columns row) := by
  induction h with
  | nil => exact .ok ()
  | cons hcell _ ih => exact (Column.failsOnly_accept hcell).bind fun _ _ => ih

theorem inBounds_acceptRow {columns : List Column} {row : Row} (h : row.length ≤ columns.length) :
    FailsOnly IsInBounds (acceptRow columns row) := by
  induction columns generalizing row with
  | nil =>
    obtain rfl := List.length_eq_zero_iff.1 (Nat.le_zero.1 h)
    exact .ok ()
  | cons column columns ih =>
    cases row with
    | nil => exact .ok ()
    | cons cell row => exact (column.inBounds_accept cell.type?).bind fun _ _ => ih (Nat.le_of_succ_le_succ h)

namespace Table

variable {table : Table} {row : Row}

/-! ### Assignments -/

/-- Binds one assignment, behind the positions that have been assigned before. -/
def bindAssignment (table : Table) (assigned : List Nat) (assignment : Assignment) :
    Except StatementError Target :=
  let name := assignment.column.text
  match table.position? name with
  | none => .error (.columnDoesNotExist name)
  | some index =>
    if index ∈ assigned then .error (.duplicateColumn name)
    else do
      let value ← BoundExpression.ofExpression (some table) assignment.value
      match table.columns[index]? with
      | none => .error .outOfBounds
      | some column =>
        if value.type.isSome then column.accept value.type
        return (index, value)

theorem bindAssignments_cons (table : Table) (assigned : List Nat) (assignment : Assignment)
    (assignments : List Assignment) :
    table.bindAssignments assigned (assignment :: assignments) = do
      let target ← table.bindAssignment assigned assignment
      let rest ← table.bindAssignments (target.1 :: assigned) assignments
      return target :: rest := by
  rw [bindAssignments, bindAssignment]
  cases table.position? assignment.column.text with
  | none => rfl
  | some index =>
    dsimp only
    split
    · rfl
    · cases BoundExpression.ofExpression (some table) assignment.value with
      | error e => rfl
      | ok value =>
        have hok {γ : Type} (f : BoundExpression → Except StatementError γ) : (Except.ok value >>= f) = f value := rfl
        simp only [hok]
        cases table.columns[index]? with
        | none => rfl
        | some column =>
          dsimp only
          cases value.type.isSome with
          | false => rfl
          | true =>
            rw [if_pos rfl, if_pos rfl]
            cases column.accept value.type <;> rfl

/-- The target is the column that is assigned and its new value, which the column accepts going by its type. -/
structure Target.Of (table : Table) (assignment : Assignment) (target : Target) : Prop where
  position : table.position? assignment.column.text = some target.1
  value : BoundExpression.ofExpression (some table) assignment.value = .ok target.2
  accepted : ∃ column, table.columns[target.1]? = some column ∧
    ∀ found, target.2.type = some found → column.accept (some found) = .ok ()

theorem bindAssignment_eq_ok {assigned : List Nat} {assignment : Assignment} {target : Target} :
    table.bindAssignment assigned assignment = .ok target ↔
      Target.Of table assignment target ∧ target.1 ∉ assigned := by
  rw [bindAssignment]
  cases hposition : table.position? assignment.column.text with
  | none => exact ⟨nofun, fun h => nomatch hposition.symm.trans h.1.position⟩
  | some index =>
    obtain ⟨column, hcolumn⟩ := getElem?_of_position? hposition
    have haccept (value : BoundExpression) : (do
        if value.type.isSome then column.accept value.type
        return (index, value) : Except StatementError Target) = .ok target ↔
          (∀ found, value.type = some found → column.accept (some found) = .ok ()) ∧ (index, value) = target := by
      cases htype : value.type with
      | none => simp [pure, Except.pure]
      | some found => cases hfound : column.accept (some found) <;> simp [hfound, Functor.map, Except.map]
    dsimp only
    split
    · next hassigned =>
      refine ⟨nofun, fun h => absurd hassigned ?_⟩
      rw [Option.some.inj (hposition.symm.trans h.1.position)]
      exact h.2
    · next hfresh =>
      simp only [except_bind_eq_ok, hcolumn, haccept]
      constructor
      · rintro ⟨value, hvalue, htype, rfl⟩
        exact ⟨⟨hposition, hvalue, column, hcolumn, htype⟩, hfresh⟩
      · rintro ⟨⟨hindex, hvalue, other, hother, htype⟩, -⟩
        obtain rfl := Option.some.inj (hposition.symm.trans hindex)
        obtain rfl := Option.some.inj (hcolumn.symm.trans hother)
        exact ⟨target.2, hvalue, htype, rfl⟩

/-- Each assignment has a target, and no two have the same position. -/
theorem bindAssignments_eq_ok {assigned : List Nat} {assignments : List Assignment} {targets : List Target} :
    table.bindAssignments assigned assignments = .ok targets ↔
      List.Forall₂ (Target.Of table) assignments targets ∧ (targets.map (·.1)).Nodup ∧
        ∀ target ∈ targets, target.1 ∉ assigned := by
  induction assignments generalizing assigned targets with
  | nil =>
    rw [bindAssignments, List.forall₂_nil_left_iff]
    constructor
    · intro h
      obtain rfl := Except.ok.inj h
      simp
    · rintro ⟨rfl, -⟩
      rfl
  | cons assignment assignments ih =>
    simp only [bindAssignments_cons, except_bind_eq_ok, except_pure_eq_ok, bindAssignment_eq_ok, ih]
    constructor
    · rintro ⟨target, ⟨htarget, hfresh⟩, rest, ⟨hrest, hnodup, hdisjoint⟩, rfl⟩
      refine ⟨.cons htarget hrest, List.nodup_cons.2 ⟨fun hmem => ?_, hnodup⟩, List.forall_mem_cons.2 ⟨hfresh, ?_⟩⟩
      · obtain ⟨other, hother, heq⟩ := List.mem_map.1 hmem
        exact hdisjoint other hother (heq ▸ List.mem_cons_self)
      · exact fun other hother hmem => hdisjoint other hother (List.mem_cons_of_mem _ hmem)
    · rintro ⟨hall, hnodup, hdisjoint⟩
      obtain ⟨target, rest, htarget, hrest, rfl⟩ := List.forall₂_cons_left_iff.1 hall
      obtain ⟨hfirst, hnodup⟩ := List.nodup_cons.1 hnodup
      obtain ⟨hfresh, hdisjoint⟩ := List.forall_mem_cons.1 hdisjoint
      refine ⟨target, ⟨htarget, hfresh⟩, rest, ⟨hrest, hnodup, fun other hother hmem => ?_⟩, rfl⟩
      rcases List.mem_cons.1 hmem with heq | hmem
      · exact hfirst (List.mem_map.2 ⟨other, hother, heq⟩)
      · exact hdisjoint other hother hmem

/-- The assignment is to one of the columns, and its value is of the column's type or NULL. -/
def Target.Fits (columns : List Column) (target : Target) : Prop :=
  ∃ column, columns[target.1]? = some column ∧ target.2.Sound columns ∧
    (target.2.type = none ∨ target.2.type = some column.type)

theorem Target.Of.fits {assignment : Assignment} {target : Target} (h : Target.Of table assignment target) :
    target.Fits table.columns := by
  obtain ⟨column, hcolumn, haccept⟩ := h.accepted
  refine ⟨column, hcolumn, BoundExpression.sound_of_ofExpression h.value, ?_⟩
  cases htype : target.2.type with
  | none => exact .inl rfl
  | some found => exact .inr (congrArg some (column.eq_of_accept_eq_ok (haccept found htype)))

theorem fits_of_bindAssignments {assigned : List Nat} {assignments : List Assignment} {targets : List Target}
    (h : table.bindAssignments assigned assignments = .ok targets) : ∀ target ∈ targets, target.Fits table.columns := by
  intro target htarget
  obtain ⟨assignment, -, hof⟩ := exists_of_forall₂_of_mem (bindAssignments_eq_ok.1 h).1 htarget
  exact hof.fits

theorem inBounds_bindAssignment (table : Table) (assigned : List Nat) (assignment : Assignment) :
    FailsOnly IsInBounds (table.bindAssignment assigned assignment) := by
  rw [bindAssignment]
  cases hindex : table.position? assignment.column.text with
  | none => exact .error trivial
  | some index =>
    obtain ⟨column, hcolumn⟩ := getElem?_of_position? hindex
    dsimp only
    split
    · exact .error trivial
    · refine (BoundExpression.inBounds_ofExpression _ _).bind fun value _ => ?_
      simp only [hcolumn]
      split
      · exact (column.inBounds_accept value.type).map
      · exact .ok _

theorem inBounds_bindAssignments (table : Table) (assigned : List Nat) (assignments : List Assignment) :
    FailsOnly IsInBounds (table.bindAssignments assigned assignments) := by
  induction assignments generalizing assigned with
  | nil => exact .ok []
  | cons assignment assignments ih =>
    rw [bindAssignments_cons]
    exact (inBounds_bindAssignment table assigned assignment).bind fun target _ => (ih _).map

/-- The value of an assignment on a row is of the column's type or NULL. -/
theorem Target.Fits.isOf {columns : List Column} {target : Target} (h : target.Fits columns)
    (hrow : List.Forall₂ Column.Holds columns row) {cell : Cell} (hcell : target.2.evaluate row = .ok cell) :
    ∃ column, columns[target.1]? = some column ∧ cell.IsOf (some column.type) := by
  obtain ⟨column, hcolumn, hsound, htype⟩ := h
  have hvalue : cell.IsOf target.2.type := BoundExpression.value_of_evaluate_eq_ok hcell ▸ hsound.value_isOf hrow
  refine ⟨column, hcolumn, ?_⟩
  rcases htype with hnone | hsome
  · exact .inl ((hnone ▸ hvalue).elim id Cell.type?_eq_none.1)
  · exact hsome ▸ hvalue

/-- Assignments to the columns of a row only fail where a value overflows, and leave a row of the same types. -/
theorem assign_typed {columns : List Column} {old : Row} (hold : List.Forall₂ Column.Holds columns old)
    {targets : List Target} (htargets : ∀ target ∈ targets, target.Fits columns) (hrow : TypedRow columns row) :
    FailsOnly IsOverflow (assign old targets row) ∧
      ∀ updated, assign old targets row = .ok updated → TypedRow columns updated := by
  induction targets generalizing row with
  | nil =>
    refine ⟨.ok row, fun updated h => ?_⟩
    obtain rfl := Except.ok.inj h
    exact hrow
  | cons target targets ih =>
    obtain ⟨index, value⟩ := target
    have hfits := htargets _ List.mem_cons_self
    -- The rest of the assignments go on from a row in which one cell has been exchanged for one of its type.
    have hset (cell : Cell) (hcell : value.evaluate old = .ok cell) :
        index < row.length ∧ TypedRow columns (row.set index cell) := by
      obtain ⟨column, hcolumn, hisOf⟩ := hfits.isOf hold hcell
      obtain ⟨hindex, -⟩ := List.getElem?_eq_some_iff.1 hcolumn
      exact ⟨hrow.length_eq ▸ hindex, hrow.set hcolumn hisOf⟩
    have hrest (cell : Cell) (hcell : value.evaluate old = .ok cell) :=
      ih (fun t ht => htargets t (List.mem_cons_of_mem _ ht)) (hset cell hcell).2
    obtain ⟨column, hcolumn, hsound, -⟩ := hfits
    refine ⟨(hsound.failsOnly_evaluate hold).bind fun cell hcell => ?_, fun updated h => ?_⟩
    · rw [if_pos (hset cell hcell).1]
      exact (hrest cell hcell).1
    · obtain ⟨cell, hcell, h⟩ := except_bind_eq_ok.1 h
      rw [if_pos (hset cell hcell).1] at h
      exact (hrest cell hcell).2 updated h

/-- Making the new row of an UPDATE fails where a value overflows, or where it leaves a NULL in the wrong column. -/
theorem failsOnly_updatedRow? {condition : Option Expression} {bound : Option BoundExpression} {targets : List Target}
    (hcondition : BoundExpression.ofCondition table condition = .ok bound)
    (htargets : ∀ target ∈ targets, target.Fits table.columns) (hrow : List.Forall₂ Column.Holds table.columns row) :
    FailsOnly (fun e => e.IsOverflow ∨ e.IsNullConstraint) (table.updatedRow? bound targets row) := by
  have hassign := assign_typed hrow htargets (hrow.imp fun _ _ => Column.Holds.isOf)
  refine ((BoundExpression.failsOnly_admits hcondition hrow).mono fun _ => .inl).bind fun flag _ => ?_
  split
  · refine (hassign.1.mono fun _ => .inl).bind fun updated hupdated => ?_
    exact ((failsOnly_acceptRow (hassign.2 updated hupdated)).mono fun _ => .inr).map
  · exact .ok none

/-! ### Results of a SELECT -/

theorem sound_of_projections {position : Nat} {items : List SelectItem} {found : List Projection}
    (h : table.projections position items = .ok found) : ∀ projection ∈ found, projection.2.Sound table.columns := by
  induction items generalizing position found with
  | nil =>
    obtain rfl := Except.ok.inj h
    simp
  | cons item items ih =>
    cases item with
    | star token =>
      obtain ⟨rest, hrest, h⟩ := except_bind_eq_ok.1 h
      obtain rfl := except_pure_eq_ok.1 h
      refine List.forall_mem_append.2 ⟨fun projection hprojection => ?_, ih hrest⟩
      obtain ⟨⟨column, index⟩, hcolumn, rfl⟩ := List.mem_map.1 hprojection
      exact BoundExpression.sound_ofColumn (List.mk_mem_zipIdx_iff_getElem?.1 hcolumn) column.name
    | expression e columnAlias =>
      obtain ⟨bound, hbound, h⟩ := except_bind_eq_ok.1 h
      obtain ⟨rest, hrest, h⟩ := except_bind_eq_ok.1 h
      obtain rfl := except_pure_eq_ok.1 h
      exact List.forall_mem_cons.2 ⟨BoundExpression.sound_of_ofExpression hbound, ih hrest⟩

theorem inBounds_projections (table : Table) (position : Nat) (items : List SelectItem) :
    FailsOnly IsInBounds (table.projections position items) := by
  induction items generalizing position with
  | nil => exact .ok []
  | cons item items ih =>
    cases item with
    | star token => exact (ih _).map
    | expression e columnAlias => exact (BoundExpression.inBounds_ofExpression _ e).bind fun _ _ => (ih _).map

end Table

/-- Evaluating expressions on a row only fails where one of them overflows. -/
theorem failsOnly_mapM_evaluate {columns : List Column} {row : Row} {bound : α → BoundExpression} {as : List α}
    (h : ∀ a ∈ as, (bound a).Sound columns) (hrow : List.Forall₂ Column.Holds columns row) :
    FailsOnly IsOverflow (as.mapM fun a => (bound a).evaluate row) :=
  .mapM fun a ha => (h a ha).failsOnly_evaluate hrow

theorem failsOnly_sortRows {columns : List Column} {keys : List Key} {rows : List Row}
    (hkeys : ∀ key ∈ keys, key.1.Sound columns) (hrows : ∀ row ∈ rows, List.Forall₂ Column.Holds columns row) :
    FailsOnly IsOverflow (sortRows keys rows) :=
  (FailsOnly.mapM fun row hrow => (failsOnly_mapM_evaluate hkeys (hrows row hrow)).map).map

/-- Sorting makes no rows. -/
theorem mem_of_sortRows {keys : List Key} {rows sorted : List Row} (h : sortRows keys rows = .ok sorted) :
    ∀ row ∈ sorted, row ∈ rows := by
  obtain ⟨keyed, hkeyed, h⟩ := except_bind_eq_ok.1 h
  obtain rfl := except_pure_eq_ok.1 h
  intro row hrow
  obtain ⟨pair, hpair, rfl⟩ := List.mem_map.1 hrow
  obtain ⟨old, hold, hmade⟩ := exists_of_forall₂_of_mem (mapM_eq_ok.1 hkeyed) (List.mem_mergeSort.1 hpair)
  obtain ⟨values, -, hpure⟩ := except_bind_eq_ok.1 hmade
  obtain rfl := except_pure_eq_ok.1 hpure
  exact hold

theorem sound_of_bindKeys {table : Table} {order : List SortKey} {keys : List Key}
    (h : (order.mapM fun key => (do
      return (← BoundExpression.ofExpression (some table) key.expression, key.descending) :
        Except StatementError Key)) = .ok keys) : ∀ key ∈ keys, key.1.Sound table.columns := by
  intro key hkey
  obtain ⟨written, -, hmade⟩ := exists_of_forall₂_of_mem (mapM_eq_ok.1 h) hkey
  obtain ⟨bound, hbound, hpure⟩ := except_bind_eq_ok.1 hmade
  obtain rfl := except_pure_eq_ok.1 hpure
  exact BoundExpression.sound_of_ofExpression hbound

/-- Once all expressions of a SELECT are bound, it only fails where a value overflows. -/
theorem failsOnly_result {columns : List Column} {rows : List Row} {condition : Option BoundExpression}
    {keys : List Key} {projections : List Projection}
    (hrows : ∀ row ∈ rows, List.Forall₂ Column.Holds columns row)
    (hcondition : ∀ row ∈ rows, FailsOnly IsOverflow (BoundExpression.admits condition row))
    (hkeys : ∀ key ∈ keys, key.1.Sound columns) (hprojections : ∀ projection ∈ projections, projection.2.Sound columns) :
    FailsOnly IsOverflow (do
      let matching ← filterRows (BoundExpression.admits condition) rows
      let ordered ← if keys.isEmpty then pure matching else sortRows keys matching
      let rows ← ordered.mapM fun row => projections.mapM (·.2.evaluate row)
      return ResultTable.mk (projections.map (·.1)) rows) := by
  refine (FailsOnly.filterRows hcondition).bind fun matching hmatching => ?_
  have hfit : ∀ row ∈ matching, List.Forall₂ Column.Holds columns row :=
    fun row hrow => hrows row (mem_of_filterRows hmatching row hrow)
  have hresult (ordered : List Row) (hordered : ∀ row ∈ ordered, row ∈ matching) :
      FailsOnly IsOverflow (ordered.mapM fun row => projections.mapM (·.2.evaluate row)) :=
    .mapM fun row hrow => failsOnly_mapM_evaluate hprojections (hfit row (hordered row hrow))
  split
  · exact (hresult matching fun _ => id).map
  · exact (failsOnly_sortRows hkeys hfit).bind fun ordered hordered =>
      (hresult ordered (mem_of_sortRows hordered)).map

end SqlShell
