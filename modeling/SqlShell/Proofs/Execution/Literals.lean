import SqlShell.Proofs.Execution.Assignment
import SqlShell.Proofs.Execution.Soundness
/-!
# Values that a column takes

An INSERT looks at a value when it has been worked out; an UPDATE looks at the type of the expression before there are
any values, and at the new rows afterwards. Where no column stands in the expression, both come to the same value
(`Catalog.step_insertRow_eq_ok`, `Catalog.step_setAll_eq_ok`), and its type is the one that was found before.
There is one exception: NULL under an operator has the type of the operator, so that an UPDATE refuses it where the
column is of another type, and an INSERT does not (`Catalog.insert_and_update_take_same_values`).
-/

namespace SqlShell

namespace Expression

/-- No column stands in the expression. -/
def IsNameless : Expression → Prop
  | .term token => ∀ name, token.kind ≠ .identifier name
  | .unary _ operand => operand.IsNameless
  | .binary _ left right => left.IsNameless ∧ right.IsNameless

/-- The expression is NULL, maybe under prefix operators. -/
def isNull : Expression → Bool
  | .term token => token.kind = .keyword .null
  | .unary _ operand => operand.isNull
  | .binary .. => false

/-- The prefix operators over the innermost operand. -/
def signs : Expression → List Token
  | .unary operators operand => operand.signs ++ operators
  | _ => []

/-- The type that is known before there is a value. A bare NULL has none. -/
def staticType? (e : Expression) : Option ColumnType :=
  match BoundExpression.ofExpression none e with
  | .ok bound => bound.type
  | .error _ => none

theorem staticType?_of_ofExpression {e : Expression} {bound : BoundExpression}
    (h : BoundExpression.ofExpression none e = .ok bound) : e.staticType? = bound.type := by
  rw [staticType?, h]

end Expression

/-! ### Literals under operators -/

theorem PrefixOperator.apply_eq_null {operator : PrefixOperator} {cell result : Cell}
    (h : operator.apply cell = .ok result) : result = .null ↔ cell = .null := by
  unfold apply at h
  split at h
  · obtain rfl := Except.ok.inj h
    simp
  · obtain rfl := Except.ok.inj h
    rfl
  · split at h
    · simp at h
    · obtain rfl := Except.ok.inj h
      simp
  · obtain rfl := Except.ok.inj h
    simp
  · simp at h

namespace BoundExpression

variable {bound under : BoundExpression} {cell result : Cell} {e : Expression}

theorem applyAll_eq_null {operators : List PrefixOperator} (h : applyAll operators cell = .ok result) :
    result = .null ↔ cell = .null := by
  induction operators generalizing cell with
  | nil =>
    obtain rfl := Except.ok.inj h
    rfl
  | cons operator operators ih =>
    obtain ⟨middle, hmiddle, hrest⟩ := except_bind_eq_ok.1 h
    rw [ih hrest, PrefixOperator.apply_eq_null hmiddle]

/-- Operators leave the operand as it is, and what they give has a type. -/
theorem underOperators_eq_ok {tokens : List Token} (h : bound.underOperators tokens = .ok under) :
    under.operand = bound.operand ∧ (under.type = none ↔ bound.type = none ∧ tokens = []) := by
  induction tokens generalizing bound with
  | nil =>
    obtain rfl := Except.ok.inj h
    simp
  | cons token tokens ih =>
    obtain ⟨middle, hmiddle, hrest⟩ := except_bind_eq_ok.1 h
    obtain ⟨operator, -, rfl⟩ := underOperator_eq_ok hmiddle
    obtain ⟨hoperand, htype⟩ := ih hrest
    exact ⟨hoperand, by simp [htype]⟩

theorem ofNumeral_eq_ok {text : String} {negative : Bool} (h : ofNumeral text negative = .ok bound) :
    ∃ value, bound = ofLiteral (.int value) := by
  rw [ofNumeral] at h
  split at h
  · exact ⟨_, (Except.ok.inj h).symm⟩
  · simp at h

theorem isNull_of_signedNumeral? {operators rest : List Token} {text : String}
    (h : signedNumeral? operators e = some (text, rest)) : (Expression.unary operators e).isNull = false := by
  unfold signedNumeral? at h
  split at h
  · simp [Expression.isNull]
  · simp at h

/-- What an expression without names is bound to: operators over a literal. Only NULL has no type, and only while there
is no operator over it. -/
structure OfLiteral (e : Expression) (bound : BoundExpression) (cell : Cell) : Prop where
  operand : bound.operand = .literal cell
  null_iff : cell = .null ↔ e.isNull
  untyped_iff : bound.type = none ↔ e.isNull ∧ e.signs = []

theorem ofLiteral_of_ofTerm {token : Token} (h : ofTerm none token.kind = .ok bound) :
    ∃ cell, OfLiteral (.term token) bound cell := by
  have hliteral (cell : Cell) (hnull : cell = .null ↔ token.kind = .keyword .null) :
      OfLiteral (.term token) (ofLiteral cell) cell :=
    ⟨rfl, by simp [Expression.isNull, hnull],
      by simp [Expression.isNull, Expression.signs, ofLiteral, Cell.type?_eq_none, hnull]⟩
  unfold ofTerm at h
  split at h
  · simp at h
  · next hkind =>
    obtain ⟨value, rfl⟩ := ofNumeral_eq_ok h
    exact ⟨_, hliteral (.int value) (by simp [hkind])⟩
  · next hkind =>
    obtain rfl := Except.ok.inj h
    exact ⟨_, hliteral _ (by simp [hkind])⟩
  · next hkind =>
    obtain rfl := Except.ok.inj h
    exact ⟨_, hliteral _ (by simp [hkind])⟩
  · next hkind =>
    obtain rfl := Except.ok.inj h
    exact ⟨_, hliteral .null (by simp [hkind])⟩
  · simp at h

theorem exists_ofLiteral (h : ofExpression none e = .ok bound) : ∃ cell, OfLiteral e bound cell := by
  induction e generalizing bound with
  | term token => exact ofLiteral_of_ofTerm h
  | unary operators operand ih =>
    rw [ofExpression] at h
    split at h
    · next text rest hsigned =>
      obtain ⟨numeral, hnumeral, hunder⟩ := except_bind_eq_ok.1 h
      obtain ⟨value, rfl⟩ := ofNumeral_eq_ok hnumeral
      obtain ⟨hoperand, htype⟩ := underOperators_eq_ok hunder
      have hnull : (Expression.unary operators operand).isNull = false := isNull_of_signedNumeral? hsigned
      exact ⟨.int value, hoperand, by simp [hnull], by simp [htype, hnull, ofLiteral, Cell.type?]⟩
    · obtain ⟨inner, hinner, hunder⟩ := except_bind_eq_ok.1 h
      obtain ⟨cell, hcell⟩ := ih hinner
      obtain ⟨hoperand, htype⟩ := underOperators_eq_ok hunder
      refine ⟨cell, hoperand.trans hcell.operand, hcell.null_iff, ?_⟩
      rw [htype, hcell.untyped_iff, Expression.isNull, Expression.signs, List.append_eq_nil_iff, and_assoc]
  | binary operator left right => simp [ofExpression] at h

/-- Where there are no names, the table does not matter. -/
theorem ofExpression_of_isNameless (h : e.IsNameless) (table : Option Table) :
    ofExpression table e = ofExpression none e := by
  induction e with
  | term token =>
    rw [ofExpression, ofExpression]
    unfold ofTerm
    split
    · next name hkind => exact absurd hkind (h name)
    all_goals rfl
  | unary operators operand ih =>
    rw [ofExpression, ofExpression, ih h]
  | binary operator left right => rfl

theorem OfLiteral.evaluate_eq (h : OfLiteral e bound cell) (row : Row) : bound.evaluate row = bound.evaluate [] := by
  rw [evaluate, evaluate, h.operand]
  rfl

theorem OfLiteral.evaluate_eq_null (h : OfLiteral e bound cell) {row : Row}
    (hresult : bound.evaluate row = .ok result) : result = .null ↔ e.isNull := by
  rw [evaluate, h.operand] at hresult
  rw [applyAll_eq_null hresult, ← h.null_iff]
  rfl

end BoundExpression

/-! ### Columns and values -/

/-- The expression has the value, which the column can hold. -/
def Column.Takes (column : Column) (e : Expression) (cell : Cell) : Prop :=
  e.literal = .ok cell ∧ column.Holds cell

/-- The type that is known beforehand is that of the column, or there is none. -/
def Column.Suits (column : Column) (e : Expression) : Prop :=
  e.staticType? = none ∨ e.staticType? = some column.type

variable {column : Column} {e : Expression} {cell : Cell}

/-- The type of a value is known beforehand, and that of NULL is the type of the outermost operator. -/
theorem Column.Takes.suits_iff (h : column.Takes e cell) :
    column.Suits e ↔ ¬(e.isNull ∧ e.signs ≠ [] ∧ e.staticType? ≠ some column.type) := by
  obtain ⟨hliteral, hholds⟩ := h
  obtain ⟨bound, hbound, hvalue⟩ := except_bind_eq_ok.1 hliteral
  obtain ⟨literal, hof⟩ := BoundExpression.exists_ofLiteral hbound
  have htype := Expression.staticType?_of_ofExpression hbound
  constructor
  · rintro (hnone | hsome) ⟨-, hsigns, hne⟩
    · exact hsigns (hof.untyped_iff.1 (htype.symm.trans hnone)).2
    · exact hne hsome
  · intro hnot
    rcases hholds with htyped | ⟨hnull, -⟩
    · have hisOf := (BoundExpression.sound_in_scope hbound).value_isOf .nil
      rw [BoundExpression.value_of_evaluate_eq_ok hvalue] at hisOf
      rcases hisOf with rfl | hsame
      · cases htyped
      · exact .inr (htype.trans (hsame.symm.trans htyped))
    · have hisNull := (hof.evaluate_eq_null hvalue).1 hnull
      by_cases hsigns : e.signs = []
      · exact .inl (htype.trans (hof.untyped_iff.2 ⟨hisNull, hsigns⟩))
      · exact .inr (by_contra fun hne => hnot ⟨hisNull, hsigns, hne⟩)

/-- A type that does not suit is a type. -/
theorem Column.exists_staticType? (h : ¬column.Suits e) :
    ∃ type, e.staticType? = some type ∧ type ≠ column.type := by
  rw [Suits, not_or] at h
  obtain ⟨type, htype⟩ := Option.ne_none_iff_exists'.1 h.1
  exact ⟨type, htype, fun heq => h.2 (htype.trans (congrArg some heq))⟩

namespace Table

variable {table : Table} {index : Nat}

/-! ### Rows of an INSERT -/

section

variable {values : List Expression} (hlength : values.length = table.columns.length)
  (hothers : ∀ other value found, other ≠ index → values[other]? = some value → table.columns[other]? = some found →
    ∃ cell, found.Takes value cell)
  (hcolumn : table.columns[index]? = some column) (hvalue : values[index]? = some e)

include hcolumn hvalue

theorem takes_of_newRow {row : Row} (h : table.newRow values = .ok row) :
    ∃ cell, column.Takes e cell ∧ row[index]? = some cell := by
  obtain ⟨-, hcells, hholds⟩ := newRow_eq_ok.1 h
  obtain ⟨hindex, rfl⟩ := List.getElem?_eq_some_iff.1 hcolumn
  obtain ⟨hindex', rfl⟩ := List.getElem?_eq_some_iff.1 hvalue
  have hrow : index < row.length := hholds.length_eq ▸ hindex
  exact ⟨row[index], ⟨hcells.get hindex' hrow, hholds.get hindex hrow⟩, List.getElem?_eq_getElem hrow⟩

include hlength hothers

/-- A row of values that the columns take is a new row. -/
theorem exists_newRow (htakes : column.Takes e cell) :
    ∃ row, table.newRow values = .ok row ∧ row[index]? = some cell := by
  have hcell : ∀ pair ∈ values.zip table.columns, ∃ cell, pair.2.Takes pair.1 cell := by
    intro pair hpair
    obtain ⟨other, hother⟩ := List.mem_iff_getElem?.1 hpair
    obtain ⟨hexpression, hfound⟩ := List.getElem?_zip_eq_some.1 hother
    by_cases heq : other = index
    · subst heq
      obtain rfl := Option.some.inj (hvalue.symm.trans hexpression)
      obtain rfl := Option.some.inj (hcolumn.symm.trans hfound)
      exact ⟨cell, htakes⟩
    · exact hothers other _ _ heq hexpression hfound
  obtain ⟨row, hrow⟩ := exists_forall₂ hcell
  have hexpressions : List.Forall₂ (fun e cell => e.literal = .ok cell) values row := by
    rw [← List.map_fst_zip (Nat.le_of_eq hlength), List.forall₂_map_left_iff]
    exact hrow.imp fun _ _ htakes => htakes.1
  have hfits : List.Forall₂ Column.Holds table.columns row := by
    rw [← List.map_snd_zip (Nat.le_of_eq hlength.symm), List.forall₂_map_left_iff]
    exact hrow.imp fun _ _ htakes => htakes.2
  have hnew := newRow_eq_ok.2 ⟨hlength, hexpressions, hfits⟩
  obtain ⟨stored, hstored, hget⟩ := takes_of_newRow hcolumn hvalue hnew
  obtain rfl := Except.ok.inj (htakes.1.symm.trans hstored.1)
  exact ⟨row, hnew, hget⟩

end

/-! ### Rows of an UPDATE -/

section

variable (hcolumn : table.columns[index]? = some column)

include hcolumn

theorem fits_set_iff {row : Row} (hrow : List.Forall₂ Column.Holds table.columns row) :
    List.Forall₂ Column.Holds table.columns (row.set index cell) ↔ column.Holds cell := by
  refine ⟨fun h => ?_, forall₂_set hrow hcolumn⟩
  obtain ⟨hindex, rfl⟩ := List.getElem?_eq_some_iff.1 hcolumn
  have hset : index < (row.set index cell).length := h.length_eq ▸ hindex
  simpa using h.get hindex hset

theorem updatedRow?_literal {bound : BoundExpression} {literal : Cell} (hof : BoundExpression.OfLiteral e bound literal)
    {row : Row} (hrow : List.Forall₂ Column.Holds table.columns row) {new : Option Row} :
    table.updatedRow? none [(index, bound)] row = .ok new ↔
      ∃ cell, bound.evaluate [] = .ok cell ∧ column.Holds cell ∧ new = some (row.set index cell) := by
  have hindex : index < row.length := hrow.length_eq ▸ (List.getElem?_eq_some_iff.1 hcolumn).1
  have hassign {updated : Row} : assign row [(index, bound)] row = .ok updated ↔
      ∃ cell, bound.evaluate [] = .ok cell ∧ row.set index cell = updated := by
    simp only [assign, except_bind_eq_ok, hof.evaluate_eq row, if_pos hindex, Except.ok.injEq]
  rw [updatedRow?_eq_ok]
  constructor
  · rintro (⟨hadmits, -⟩ | ⟨-, _, hupdated, haccept, rfl⟩)
    · simp [BoundExpression.admits] at hadmits
    · obtain ⟨cell, hcell, rfl⟩ := hassign.1 hupdated
      have hfits := (acceptRow_eq_ok ((List.length_set ..).trans hrow.length_eq.symm)).1 haccept
      exact ⟨cell, hcell, (fits_set_iff hcolumn hrow).1 hfits, rfl⟩
  · rintro ⟨cell, hcell, hholds, rfl⟩
    have hfits := (fits_set_iff hcolumn hrow).2 hholds
    exact .inr ⟨rfl, _, hassign.2 ⟨cell, hcell, rfl⟩, (acceptRow_eq_ok hfits.length_eq.symm).2 hfits, rfl⟩

/-- The same value is stored in every row. -/
theorem forall₂_updatedRow?_literal {bound : BoundExpression} {literal : Cell}
    (hof : BoundExpression.OfLiteral e bound literal)
    (hfit : ∀ row ∈ table.rows, List.Forall₂ Column.Holds table.columns row) (hcell : bound.evaluate [] = .ok cell)
    (hholds : column.Holds cell) :
    List.Forall₂ (fun row new => table.updatedRow? none [(index, bound)] row = .ok new) table.rows
      (table.rows.map fun row => some (row.set index cell)) := by
  rw [List.forall₂_map_right_iff, List.forall₂_same]
  intro row hrow
  exact (updatedRow?_literal hcolumn hof (hfit row hrow)).2 ⟨cell, hcell, hholds, rfl⟩

theorem bindAssignments_nameless (hnodup : (table.columns.map (·.name)).Nodup) {target : Token}
    (htarget : target.text = column.name) (hnameless : e.IsNameless) {targets : List Target} :
    table.bindAssignments [] [⟨target, e⟩] = .ok targets ↔
      ∃ bound, BoundExpression.ofExpression none e = .ok bound ∧ column.Suits e ∧ targets = [(index, bound)] := by
  have hposition : table.position? target.text = some index := htarget ▸ position?_name hnodup hcolumn
  have hsuits {bound : BoundExpression} (hbound : BoundExpression.ofExpression none e = .ok bound) :
      column.Suits e ↔ ∀ found, bound.type = some found → column.accept (some found) = .ok () := by
    rw [Column.Suits, Expression.staticType?_of_ofExpression hbound]
    cases bound.type with
    | none => simp
    | some found => by_cases heq : found = column.type <;> simp [Column.accept, heq]
  have hvalue := BoundExpression.ofExpression_of_isNameless hnameless (some table)
  rw [bindAssignments_eq_ok]
  constructor
  · rintro ⟨hall, -⟩
    obtain ⟨⟨place, bound⟩, rest, hof, hrest, rfl⟩ := List.forall₂_cons_left_iff.1 hall
    obtain rfl := List.forall₂_nil_left_iff.1 hrest
    obtain rfl := Option.some.inj (hposition.symm.trans hof.position)
    have hbound := hvalue.symm.trans hof.value
    obtain ⟨found, hfound, haccepted⟩ := hof.accepted
    obtain rfl := Option.some.inj (hcolumn.symm.trans hfound)
    exact ⟨bound, hbound, (hsuits hbound).2 haccepted, rfl⟩
  · rintro ⟨bound, hbound, hsuit, rfl⟩
    have hof : Target.Of table ⟨target, e⟩ (index, bound) :=
      ⟨hposition, hvalue.trans hbound, column, hcolumn, (hsuits hbound).1 hsuit⟩
    exact ⟨.cons hof .nil, by simp, by simp⟩

end

end Table

/-! ### Statements -/

/-- `INSERT INTO table VALUES (values)` -/
def Statement.insertRow (table : Token) (values : List Expression) : Statement :=
  .insert ⟨table, [values]⟩

/-- `UPDATE table SET target = value` -/
def Statement.setAll (table target : Token) (value : Expression) : Statement :=
  .update ⟨table, [⟨target, value⟩], none⟩

namespace Catalog

variable {catalog : Catalog} {name : Token} {table : Table} {index : Nat}

theorem step_insertRow_eq_ok (hfound : catalog.table? name.text = some table) {values : List Expression}
    {outcome : Outcome} {after : Catalog} :
    catalog.step (.insertRow name values) = (.ok outcome, after) ↔
      ∃ row, table.newRow values = .ok row ∧ outcome = .inserted 1 ∧
        after = catalog.put name.text { table with rows := table.rows ++ [row] } := by
  rw [step_eq_ok_iff]
  show catalog.insert ⟨name, [values]⟩ = _ ↔ _
  rw [insert_eq_ok]
  constructor
  · rintro ⟨found, rows, hfound', hrows, heq⟩
    obtain rfl := Option.some.inj (hfound.symm.trans hfound')
    obtain ⟨row, rest, hrow, hrest, rfl⟩ := List.forall₂_cons_left_iff.1 hrows
    obtain rfl := List.forall₂_nil_left_iff.1 hrest
    obtain ⟨rfl, rfl⟩ := Prod.mk.inj heq
    exact ⟨row, hrow, rfl, rfl⟩
  · rintro ⟨row, hrow, rfl, rfl⟩
    exact ⟨table, [row], hfound, .cons hrow .nil, rfl⟩

section

variable (htable : table.WellFormed) (hfound : catalog.table? name.text = some table)
  (hcolumn : table.columns[index]? = some column) {target : Token} (htarget : target.text = column.name)
  (hnameless : e.IsNameless)

include htable hfound hcolumn htarget hnameless

/-- The new value is stored in every row. Where there are no rows, it is never worked out. -/
theorem step_setAll_eq_ok (hrows : table.rows ≠ []) {outcome : Outcome} {after : Catalog} :
    catalog.step (.setAll name target e) = (.ok outcome, after) ↔
      ∃ cell, column.Suits e ∧ column.Takes e cell ∧ outcome = .updated table.rows.length ∧
        after = catalog.put name.text { table with rows := table.rows.map (·.set index cell) } := by
  rw [step_eq_ok_iff]
  show catalog.update ⟨name, [⟨target, e⟩], none⟩ = _ ↔ _
  rw [update_eq_ok]
  have hzip (cell : Cell) : table.rows.zipWith (fun row new => new.getD row)
      (table.rows.map fun row => some (row.set index cell)) = table.rows.map (·.set index cell) := by
    rw [List.zipWith_map_right, List.zipWith_self]
    rfl
  have hcount (cell : Cell) : (table.rows.map fun row => some (row.set index cell)).countP (·.isSome) =
      table.rows.length := by
    simp [List.countP_map]
  constructor
  · rintro ⟨found, targets, condition, updated, hfound', htargets, hcondition, hupdated, heq⟩
    obtain rfl := Option.some.inj (hfound.symm.trans hfound')
    obtain rfl := Except.ok.inj hcondition
    obtain ⟨bound, hbound, hsuits, rfl⟩ :=
      (Table.bindAssignments_nameless hcolumn htable.names_nodup htarget hnameless).1 htargets
    obtain ⟨literal, hof⟩ := BoundExpression.exists_ofLiteral hbound
    obtain ⟨first, hfirst⟩ := List.exists_mem_of_ne_nil _ hrows
    obtain ⟨new, -, hnew⟩ := exists_of_forall₂_of_mem hupdated.flip hfirst
    obtain ⟨cell, hcell, hholds, -⟩ := (Table.updatedRow?_literal hcolumn hof (htable.rows_fit first hfirst)).1 hnew
    -- every row is given the value that the first row is given
    have hall := Table.forall₂_updatedRow?_literal hcolumn hof htable.rows_fit hcell hholds
    have hmap : table.rows.map (fun row => some (row.set index cell)) = updated :=
      Except.ok.inj ((mapM_eq_ok.2 hall).symm.trans (mapM_eq_ok.2 hupdated))
    subst hmap
    rw [hzip, hcount] at heq
    obtain ⟨rfl, rfl⟩ := Prod.mk.inj heq
    exact ⟨cell, hsuits, ⟨except_bind_eq_ok.2 ⟨bound, hbound, hcell⟩, hholds⟩, rfl, rfl⟩
  · rintro ⟨cell, hsuits, ⟨hliteral, hholds⟩, rfl, rfl⟩
    obtain ⟨bound, hbound, hcell⟩ := except_bind_eq_ok.1 hliteral
    obtain ⟨literal, hof⟩ := BoundExpression.exists_ofLiteral hbound
    have htargets :=
      (Table.bindAssignments_nameless hcolumn htable.names_nodup htarget hnameless).2 ⟨bound, hbound, hsuits, rfl⟩
    have hupdated := Table.forall₂_updatedRow?_literal hcolumn hof htable.rows_fit hcell hholds
    exact ⟨table, _, none, _, hfound, htargets, rfl, hupdated, by rw [hzip, hcount]⟩

/-- A value whose type is known not to be that of the column is refused before there is a value. -/
theorem step_setAll_of_mismatch {type : ColumnType} (htype : e.staticType? = some type) (hne : type ≠ column.type) :
    catalog.step (.setAll name target e) = (.error (.typeMismatch column.name column.type type), catalog) := by
  cases hbound : BoundExpression.ofExpression none e with
  | error error => simp [Expression.staticType?, hbound] at htype
  | ok bound =>
    rw [Expression.staticType?_of_ofExpression hbound] at htype
    have hfind : catalog.find name.text = .ok table := find_eq_ok.2 hfound
    have hposition : table.position? target.text = some index :=
      htarget ▸ Table.position?_name htable.names_nodup hcolumn
    have hvalue := (BoundExpression.ofExpression_of_isNameless hnameless (some table)).trans hbound
    have haccept : column.accept (some type) = .error (.typeMismatch column.name column.type type) := if_neg hne
    have htargets : table.bindAssignments [] [⟨target, e⟩] =
        .error (.typeMismatch column.name column.type type) := by
      rw [Table.bindAssignments_cons, Table.bindAssignment]
      simp only [hposition, List.not_mem_nil, if_false, hvalue, hcolumn]
      show (if bound.type.isSome = true then _ else _) >>= _ = _
      simp only [htype, Option.isSome_some, if_true, haccept]
      rfl
    refine step_of_execute_eq_error ?_
    show catalog.update ⟨name, [⟨target, e⟩], none⟩ = _
    rw [update, hfind]
    show (table.bindAssignments [] [⟨target, e⟩] >>= _) = _
    rw [htargets]
    rfl

end

/-- A value without names that an UPDATE puts into a column, an INSERT can put there too, and both store the same cell.
What an INSERT can put there, an UPDATE can too, unless it is NULL under operators that give another type than that of
the column: then the UPDATE is refused for its type. -/
theorem insert_and_update_take_same_values {catalog : Catalog} (hcatalog : catalog.WellFormed) {name : Token}
    {table : Table} (hfound : catalog.table? name.text = some table) (hrows : table.rows ≠ []) {index : Nat}
    {column : Column} (hcolumn : table.columns[index]? = some column) {target : Token}
    (htarget : target.text = column.name) {e : Expression} (hnameless : e.IsNameless) {values : List Expression}
    (hlength : values.length = table.columns.length) (hvalue : values[index]? = some e)
    (hothers : ∀ other value found, other ≠ index → values[other]? = some value →
      table.columns[other]? = some found → ∃ cell, found.Takes value cell) :
    (∀ outcome updated, catalog.step (.setAll name target e) = (.ok outcome, updated) →
      ∃ cell row, row[index]? = some cell ∧
        catalog.step (.insertRow name values) =
          (.ok (.inserted 1), catalog.put name.text { table with rows := table.rows ++ [row] }) ∧
        outcome = .updated table.rows.length ∧
        updated = catalog.put name.text { table with rows := table.rows.map (·.set index cell) }) ∧
    ∀ outcome inserted, catalog.step (.insertRow name values) = (.ok outcome, inserted) →
      if e.isNull ∧ e.signs ≠ [] ∧ e.staticType? ≠ some column.type then
        ∃ type, e.staticType? = some type ∧
          catalog.step (.setAll name target e) = (.error (.typeMismatch column.name column.type type), catalog)
      else
        ∃ cell row, row[index]? = some cell ∧ outcome = .inserted 1 ∧
          inserted = catalog.put name.text { table with rows := table.rows ++ [row] } ∧
          catalog.step (.setAll name target e) =
            (.ok (.updated table.rows.length),
              catalog.put name.text { table with rows := table.rows.map (·.set index cell) }) := by
  have htable := hcatalog.table hfound
  refine ⟨fun outcome updated hstep => ?_, fun outcome inserted hstep => ?_⟩
  · obtain ⟨cell, -, htakes, rfl, rfl⟩ :=
      (step_setAll_eq_ok htable hfound hcolumn htarget hnameless hrows).1 hstep
    obtain ⟨row, hrow, hcell⟩ := Table.exists_newRow hlength hothers hcolumn hvalue htakes
    exact ⟨cell, row, hcell, (step_insertRow_eq_ok hfound).2 ⟨row, hrow, rfl, rfl⟩, rfl, rfl⟩
  · obtain ⟨row, hrow, rfl, rfl⟩ := (step_insertRow_eq_ok hfound).1 hstep
    obtain ⟨cell, htakes, hcell⟩ := Table.takes_of_newRow hcolumn hvalue hrow
    split
    · next hexception =>
      obtain ⟨type, htype, hne⟩ := Column.exists_staticType? fun hsuits => htakes.suits_iff.1 hsuits hexception
      exact ⟨type, htype, step_setAll_of_mismatch htable hfound hcolumn htarget hnameless htype hne⟩
    · next hplain =>
      have hsuits := htakes.suits_iff.2 hplain
      exact ⟨cell, row, hcell, rfl, rfl,
        (step_setAll_eq_ok htable hfound hcolumn htarget hnameless hrows).2 ⟨cell, hsuits, htakes, rfl, rfl⟩⟩

/-- An INSERT can put a negated NULL into a column of texts, and an UPDATE cannot. -/
theorem insert_and_update_take_same_values_of_negated_null :
    let word (text : String) : Token := ⟨.identifier text, .start⟩
    let table (rows : List Row) : Table := ⟨[⟨"a", .int, false⟩, ⟨"b", .text, true⟩], rows⟩
    let catalog := empty.put "t" (table [[.int 1, .text "x"]])
    let one : Expression := .term ⟨.numeral "1", .start⟩
    let e : Expression := .unary [⟨.symbol .minus, .start⟩] (.term ⟨.keyword .null, .start⟩)
    catalog.WellFormed ∧ e.IsNameless ∧
      catalog.step (.insertRow (word "t") [one, e]) =
        (.ok (.inserted 1), empty.put "t" (table [[.int 1, .text "x"], [.int 1, .null]])) ∧
      catalog.step (.setAll (word "t") (word "b") e) = (.error (.typeMismatch "b" .text .int), catalog) := by
  intro word table catalog one e
  have hcatalog : catalog.WellFormed :=
    WellFormed.empty.put "t" ⟨by simp [table], by simp [table], by simp [table, Column.Holds, Cell.type?]⟩
  have hfound : catalog.table? (word "t").text = some (table [[.int 1, .text "x"]]) := rfl
  have hrows : (table [[.int 1, .text "x"]]).rows ≠ [] := List.cons_ne_nil _ _
  have hcolumn : (table [[.int 1, .text "x"]]).columns[1]? = some ⟨"b", .text, true⟩ := rfl
  have htarget : (word "b").text = "b" := rfl
  have hnameless : e.IsNameless := by
    intro name h
    cases h
  have hvalue : [one, e][1]? = some e := rfl
  have hothers : ∀ other value found, other ≠ 1 → [one, e][other]? = some value →
      (table [[.int 1, .text "x"]]).columns[other]? = some found → ∃ cell, found.Takes value cell := by
    intro other value found hother hexpression hfound
    rcases other with _ | _ | other
    · obtain rfl := Option.some.inj hexpression
      obtain rfl := Option.some.inj hfound
      exact ⟨.int 1, rfl, .inl rfl⟩
    · exact absurd rfl hother
    · simp at hexpression
  have hinsert : catalog.step (.insertRow (word "t") [one, e]) =
      (.ok (.inserted 1), empty.put "t" (table [[.int 1, .text "x"], [.int 1, .null]])) :=
    Prod.ext (by decide +kernel) (Catalog.ext (by decide +kernel))
  have hupdate := (insert_and_update_take_same_values hcatalog hfound hrows hcolumn htarget hnameless rfl hvalue
    hothers).2 _ _ hinsert
  rw [if_pos (by decide +kernel)] at hupdate
  obtain ⟨type, htype, hupdate⟩ := hupdate
  obtain rfl : ColumnType.int = type := Option.some.inj htype
  exact ⟨hcatalog, hnameless, hinsert, hupdate⟩

end Catalog

end SqlShell
