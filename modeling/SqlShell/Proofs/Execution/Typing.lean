import SqlShell.Proofs.Execution.Steps
/-!
# Types of values

An expression that has been bound to the columns of a table gives values of its type on every row that fits them, and it
can only fail where it negates the least int (`sound_of_ofExpression`). The condition of a WHERE is not an int,
so it never fails.
-/

namespace SqlShell

/-- The cell is NULL or a value of the type. Without a type there is only NULL. -/
def Cell.IsOf (cell : Cell) (type : Option ColumnType) : Prop :=
  cell = .null ∨ cell.type? = type

theorem Cell.isOf_type? (cell : Cell) : cell.IsOf cell.type? := .inr rfl

theorem Column.Holds.isOf {column : Column} {cell : Cell} (h : column.Holds cell) : cell.IsOf (some column.type) :=
  h.elim .inr fun h => .inl h.1

/-- NULL is of any type, in particular of the one that stands in for a missing type. -/
theorem Cell.IsOf.getD {cell : Cell} {type : Option ColumnType} (h : cell.IsOf type) (other : ColumnType) :
    cell.IsOf (some (type.getD other)) := by
  cases type with
  | none => exact .inl (h.elim id Cell.type?_eq_none.1)
  | some type => exact h

/-- An operator over a value of its type gives a value of that type or overflows. -/
theorem PrefixOperator.apply_isOf (operator : PrefixOperator) {cell : Cell} {type : Option ColumnType}
    (hcell : cell.IsOf type) (htype : type = none ∨ type = some operator.type) :
    (∃ result, operator.apply cell = .ok result ∧ result.IsOf (some operator.type)) ∨
      operator.type = .int ∧ operator.apply cell = .error (.negationOverflow Int64.minValue) := by
  rcases hcell with rfl | rfl
  · exact .inl ⟨.null, by cases operator <;> rfl, .inl rfl⟩
  · cases cell with
    | null => exact .inl ⟨.null, by cases operator <;> rfl, .inl rfl⟩
    | int value =>
      cases operator with
      | identity => exact .inl ⟨.int value, rfl, .inr rfl⟩
      | negate =>
        by_cases hleast : value = Int64.minValue
        · exact .inr ⟨rfl, by simp [apply, hleast]⟩
        · exact .inl ⟨.int (-value), by simp [apply, hleast], .inr rfl⟩
      | not => simp [Cell.type?, type] at htype
    | boolean value =>
      cases operator with
      | not => exact .inl ⟨.boolean !value, rfl, .inr rfl⟩
      | _ => simp [Cell.type?, type] at htype
    | text value => cases operator <;> simp [Cell.type?, type] at htype

namespace BoundExpression

theorem applyAll_append (operators : List PrefixOperator) (operator : PrefixOperator) (cell : Cell) :
    applyAll (operators ++ [operator]) cell = applyAll operators cell >>= operator.apply := by
  induction operators generalizing cell with
  | nil =>
    show operator.apply cell >>= Except.ok = operator.apply cell
    cases operator.apply cell <;> rfl
  | cons first operators ih =>
    show (first.apply cell >>= applyAll (operators ++ [operator])) = (first.apply cell >>= applyAll operators) >>= _
    rw [bind_assoc]
    exact congrArg _ (funext ih)

theorem underOperator_eq_ok {bound under : BoundExpression} {token : Token}
    (h : bound.underOperator token = .ok under) :
    ∃ operator : PrefixOperator, (bound.type = none ∨ bound.type = some operator.type) ∧
      under = ⟨bound.operand, bound.operators ++ [operator], some operator.type, none⟩ := by
  rw [underOperator] at h
  split at h
  · simp at h
  · next operator _ =>
    refine ⟨operator, ?_⟩
    split at h
    · next hnone => exact ⟨.inl hnone, (Except.ok.inj h).symm⟩
    · next found hfound =>
      split at h
      · next htype => exact ⟨.inr (htype ▸ hfound), (Except.ok.inj h).symm⟩
      · simp at h

/-- On rows that fit the columns, the expression has a value of its type, or it is an int that overflows. -/
def Sound (columns : List Column) (bound : BoundExpression) : Prop :=
  ∀ row, List.Forall₂ Column.Holds columns row →
    (∃ cell, bound.evaluate row = .ok cell ∧ cell.IsOf bound.type) ∨
      bound.type = some .int ∧ bound.evaluate row = .error (.negationOverflow Int64.minValue)

variable {columns : List Column} {bound : BoundExpression}

theorem sound_ofLiteral (columns : List Column) (cell : Cell) : (ofLiteral cell).Sound columns :=
  fun _ _ => .inl ⟨cell, rfl, cell.isOf_type?⟩

theorem sound_ofColumn {index : Nat} {column : Column} (h : columns[index]? = some column) (name : String) :
    (ofColumn index column.type name).Sound columns := by
  intro row hrow
  obtain ⟨hindex, rfl⟩ := List.getElem?_eq_some_iff.1 h
  have hindex' : index < row.length := hrow.length_eq ▸ hindex
  refine .inl ⟨row[index], ?_, (hrow.get hindex hindex').isOf⟩
  simp [evaluate, ofColumn, applyAll, Operand.value, hindex']

theorem Sound.underOperator (h : bound.Sound columns) {under : BoundExpression} {token : Token}
    (hunder : bound.underOperator token = .ok under) : under.Sound columns := by
  obtain ⟨operator, htype, rfl⟩ := underOperator_eq_ok hunder
  intro row hrow
  have hevaluate : applyAll (bound.operators ++ [operator]) (bound.operand.value row) =
      bound.evaluate row >>= operator.apply := applyAll_append ..
  rw [evaluate, hevaluate]
  rcases h row hrow with ⟨cell, hcell, hisOf⟩ | ⟨hint, hoverflow⟩
  · rw [hcell]
    exact (operator.apply_isOf hisOf htype).imp id fun h => ⟨congrArg some h.1, h.2⟩
  · rw [hoverflow]
    refine .inr ⟨?_, rfl⟩
    rcases htype with hnone | hsome
    · simp [hnone] at hint
    · exact hsome ▸ hint

theorem Sound.underOperators (h : bound.Sound columns) {under : BoundExpression} {tokens : List Token}
    (hunder : bound.underOperators tokens = .ok under) : under.Sound columns := by
  induction tokens generalizing bound with
  | nil =>
    obtain rfl := Except.ok.inj hunder
    exact h
  | cons token tokens ih =>
    obtain ⟨middle, hmiddle, hrest⟩ := except_bind_eq_ok.1 hunder
    exact ih (h.underOperator hmiddle) hrest

theorem sound_ofNumeral (columns : List Column) {text : String} {negative : Bool}
    (h : ofNumeral text negative = .ok bound) : bound.Sound columns := by
  rw [ofNumeral] at h
  split at h
  · obtain rfl := Except.ok.inj h
    exact sound_ofLiteral columns _
  · simp at h

/-- The columns that names are bound to. Where there is no table, there are none. -/
def scope : Option Table → List Column
  | none => []
  | some table => table.columns

theorem sound_ofTerm {table : Option Table} {kind : Token.Kind} (h : ofTerm table kind = .ok bound) :
    bound.Sound (scope table) := by
  unfold ofTerm at h
  split at h
  · next name =>
    cases table with
    | none => simp at h
    | some table =>
      dsimp only at h
      split at h
      · simp at h
      · split at h
        · simp at h
        · next column hcolumn =>
          obtain rfl := Except.ok.inj h
          exact sound_ofColumn hcolumn name
  · exact sound_ofNumeral _ h
  · obtain rfl := Except.ok.inj h
    exact sound_ofLiteral _ _
  · obtain rfl := Except.ok.inj h
    exact sound_ofLiteral _ _
  · obtain rfl := Except.ok.inj h
    exact sound_ofLiteral _ _
  · simp at h

/-- Binding is sound, with a table or without one. -/
theorem sound_in_scope {table : Option Table} {e : Expression} (h : ofExpression table e = .ok bound) :
    bound.Sound (scope table) := by
  induction e generalizing bound with
  | term token => exact sound_ofTerm h
  | unary operators operand ih =>
    rw [ofExpression] at h
    split at h
    · obtain ⟨numeral, hnumeral, hunder⟩ := except_bind_eq_ok.1 h
      exact (sound_ofNumeral _ hnumeral).underOperators hunder
    · obtain ⟨inner, hinner, hunder⟩ := except_bind_eq_ok.1 h
      exact (ih hinner).underOperators hunder
  | binary operator left right => simp [ofExpression] at h

theorem sound_of_ofExpression {table : Table} {e : Expression} (h : ofExpression (some table) e = .ok bound) :
    bound.Sound table.columns :=
  sound_in_scope h

/-! ### Values -/

/-- The value on a row. Where there is none, this is NULL. -/
def value (bound : BoundExpression) (row : Row) : Cell :=
  match bound.evaluate row with
  | .ok cell => cell
  | .error _ => .null

/-- The expression negates the least int on the row. -/
def Overflows (bound : BoundExpression) (row : Row) : Prop :=
  bound.evaluate row = .error (.negationOverflow Int64.minValue)

theorem value_of_evaluate_eq_ok {row : Row} {cell : Cell} (h : bound.evaluate row = .ok cell) :
    bound.value row = cell := by
  rw [value, h]

theorem Sound.evaluate_eq_ok (h : bound.Sound columns) {row : Row} (hrow : List.Forall₂ Column.Holds columns row)
    (hfine : ¬bound.Overflows row) : bound.evaluate row = .ok (bound.value row) := by
  rcases h row hrow with ⟨cell, hcell, -⟩ | ⟨-, hoverflow⟩
  · rw [hcell, value_of_evaluate_eq_ok hcell]
  · exact absurd hoverflow hfine

theorem Sound.value_isOf (h : bound.Sound columns) {row : Row} (hrow : List.Forall₂ Column.Holds columns row) :
    (bound.value row).IsOf bound.type := by
  rcases h row hrow with ⟨cell, hcell, hisOf⟩ | ⟨-, hoverflow⟩
  · rwa [value_of_evaluate_eq_ok hcell]
  · rw [value, hoverflow]
    exact .inl rfl

theorem Sound.not_overflows (h : bound.Sound columns) (htype : bound.type ≠ some .int) {row : Row}
    (hrow : List.Forall₂ Column.Holds columns row) : ¬bound.Overflows row := by
  intro hoverflow
  rcases h row hrow with ⟨cell, hcell, -⟩ | ⟨hint, -⟩
  · rw [Overflows, hcell] at hoverflow
    simp at hoverflow
  · exact htype hint

end BoundExpression

theorem sound_of_ofCondition {table : Table} {condition : Option Expression} {bound : BoundExpression}
    (h : BoundExpression.ofCondition table condition = .ok (some bound)) :
    bound.Sound table.columns ∧ bound.type ≠ some .int := by
  cases condition with
  | none => simp [BoundExpression.ofCondition] at h
  | some e =>
    obtain ⟨found, hfound, hcheck⟩ := except_bind_eq_ok.1 h
    split at hcheck
    · next htype =>
      obtain rfl := Option.some.inj (except_pure_eq_ok.1 hcheck)
      refine ⟨BoundExpression.sound_of_ofExpression hfound, ?_⟩
      rcases htype with htype | htype <;> simp [htype]
    · simp at hcheck

end SqlShell
