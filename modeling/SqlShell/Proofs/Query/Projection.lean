import SqlShell.Execution.Query
import SqlShell.Proofs.Execution.Steps
/-!
# Result columns

The items of a SELECT stand for the columns of its result: a star stands for all columns of the table, as if their names
had been written one by one, and every other item for itself. The executor binds the columns one after another
(`projections_eq_ok`).
-/

namespace SqlShell

/-- A column of a result: its expression, and its alias if it has one. -/
structure ResultColumn where
  expression : Expression
  columnAlias : Option String

/-- The name of an expression that is nothing but a name. -/
def Expression.columnName? : Expression → Option String
  | .term ⟨.identifier name, _⟩ => some name
  | _ => none

namespace ResultColumn

/-- The alias, or else the name of a plain column, or else the position of the column in the result. -/
def name (position : Nat) (column : ResultColumn) : String :=
  (column.columnAlias.or column.expression.columnName?).getD s!"col_{position}"

/-- The column is bound to an expression of the table. -/
def BindsTo (table : Table) (column : ResultColumn) (bound : BoundExpression) : Prop :=
  BoundExpression.ofExpression (some table) column.expression = .ok bound

/-- The heading of the column where it is bound to an expression. -/
def heading (position : Nat) (column : ResultColumn) (bound : BoundExpression) : Heading :=
  ⟨column.name position, bound.type.getD .text⟩

/-- The columns from a position on, each with its heading and the expression that it is bound to. -/
def projections (position : Nat) (columns : List ResultColumn) (bounds : List BoundExpression) : List Projection :=
  ((columns.zip bounds).zipIdx position).map fun ((column, bound), index) => (column.heading index bound, bound)

theorem projections_append {position : Nat} {front behind : List ResultColumn} {first second : List BoundExpression}
    (h : front.length = first.length) : projections position (front ++ behind) (first ++ second) =
      projections position front first ++ projections (position + front.length) behind second := by
  have hlength : (front.zip first).length = front.length := by rw [List.length_zip, h, Nat.min_self]
  rw [projections, List.zip_append h, List.zipIdx_append, List.map_append, hlength]
  rfl

theorem projections_map_snd (position : Nat) {columns : List ResultColumn} {bounds : List BoundExpression}
    (h : columns.length = bounds.length) : (projections position columns bounds).map (·.2) = bounds := by
  have hsecond : (projections position columns bounds).map (·.2) =
      (((columns.zip bounds).zipIdx position).map (·.1)).map (·.2) := by
    rw [projections, List.map_map, List.map_map]
    rfl
  rw [hsecond, List.zipIdx_map_fst, List.map_snd_zip (Nat.le_of_eq h.symm)]

end ResultColumn

/-- The result columns of one item. -/
def SelectItem.expand (table : Table) : SelectItem → List ResultColumn
  | .star token => table.columns.map fun column => ⟨.term ⟨.identifier column.name, token.location⟩, none⟩
  | .expression e columnAlias => [⟨e, columnAlias.map (·.text)⟩]

namespace BoundExpression

theorem columnName_ofNumeral {text : String} {negative : Bool} {bound : BoundExpression}
    (h : ofNumeral text negative = .ok bound) : bound.columnName = none := by
  rw [ofNumeral] at h
  split at h
  · obtain rfl := Except.ok.inj h
    rfl
  · simp at h

theorem columnName_ofTerm {table : Table} {token : Token} {bound : BoundExpression}
    (h : ofTerm (some table) token.kind = .ok bound) : bound.columnName = (Expression.term token).columnName? := by
  obtain ⟨kind, location⟩ := token
  dsimp only at h
  unfold ofTerm at h
  split at h
  · dsimp only at h
    split at h
    · simp at h
    · split at h
      · simp at h
      · obtain rfl := Except.ok.inj h
        rfl
  · exact columnName_ofNumeral h
  · obtain rfl := Except.ok.inj h
    rfl
  · obtain rfl := Except.ok.inj h
    rfl
  · obtain rfl := Except.ok.inj h
    rfl
  · simp at h

theorem columnName_underOperators {bound under : BoundExpression} {tokens : List Token}
    (h : bound.underOperators tokens = .ok under) : under.columnName = none := by
  induction tokens generalizing bound with
  | nil =>
    obtain rfl := Except.ok.inj h
    rfl
  | cons token tokens ih =>
    obtain ⟨middle, -, hrest⟩ := except_bind_eq_ok.1 h
    exact ih hrest

/-- Only a name is bound to a plain column. -/
theorem columnName_ofExpression {table : Table} {e : Expression} {bound : BoundExpression}
    (h : ofExpression (some table) e = .ok bound) : bound.columnName = e.columnName? := by
  cases e with
  | term token => exact columnName_ofTerm h
  | unary operators operand =>
    rw [ofExpression] at h
    split at h
    · obtain ⟨_, -, hunder⟩ := except_bind_eq_ok.1 h
      exact columnName_underOperators hunder
    · obtain ⟨_, -, hunder⟩ := except_bind_eq_ok.1 h
      exact columnName_underOperators hunder
  | binary operator left right => simp [ofExpression] at h

/-- The names of the columns are distinct, so each name is bound to the column that it is the name of. -/
theorem ofTerm_name {table : Table} (hnodup : (table.columns.map (·.name)).Nodup) {index : Nat} {column : Column}
    (h : table.columns[index]? = some column) :
    ofTerm (some table) (.identifier column.name) = .ok (ofColumn index column.type column.name) := by
  simp only [ofTerm, Table.position?_name hnodup h, h]

end BoundExpression

namespace Table

variable {table : Table}

theorem heading_eq {e : Expression} {bound : BoundExpression}
    (h : BoundExpression.ofExpression (some table) e = .ok bound) (position : Nat) (columnAlias : Option Token) :
    heading position bound columnAlias = ResultColumn.heading position ⟨e, columnAlias.map (·.text)⟩ bound := by
  have hname := BoundExpression.columnName_ofExpression h
  cases columnAlias with
  | some token => rfl
  | none =>
    simp only [heading, ResultColumn.heading, ResultColumn.name, ← hname]
    cases bound.columnName <;> rfl

/-- A star is bound to the columns of the table. -/
theorem bindsTo_star (hnodup : (table.columns.map (·.name)).Nodup) (token : Token) :
    List.Forall₂ (ResultColumn.BindsTo table) ((SelectItem.star token).expand table)
      (table.starProjections.map (·.2)) := by
  refine List.forall₂_iff_get.2 ⟨by simp [SelectItem.expand, starProjections], fun index hindex _ => ?_⟩
  have hcolumn : index < table.columns.length := by simpa [SelectItem.expand] using hindex
  have hname := BoundExpression.ofTerm_name hnodup (List.getElem?_eq_getElem hcolumn)
  simpa [ResultColumn.BindsTo, SelectItem.expand, starProjections, BoundExpression.ofExpression] using hname

theorem projections_star (position : Nat) (token : Token) :
    ResultColumn.projections position ((SelectItem.star token).expand table) (table.starProjections.map (·.2)) =
      table.starProjections := by
  refine List.ext_getElem (by simp [ResultColumn.projections, SelectItem.expand, starProjections]) fun index _ _ => ?_
  simp [ResultColumn.projections, SelectItem.expand, starProjections, ResultColumn.heading, ResultColumn.name,
    Expression.columnName?, BoundExpression.ofColumn]

/-- Where all result columns can be bound, the projections are what they are bound to, under their headings. -/
theorem projections_eq_ok (hnodup : (table.columns.map (·.name)).Nodup) {items : List SelectItem}
    {bounds : List BoundExpression}
    (h : List.Forall₂ (ResultColumn.BindsTo table) (items.flatMap (·.expand table)) bounds) (position : Nat) :
    table.projections position items =
      .ok (ResultColumn.projections position (items.flatMap (·.expand table)) bounds) := by
  induction items generalizing bounds position with
  | nil =>
    obtain rfl := List.forall₂_nil_left_iff.1 h
    rfl
  | cons item items ih =>
    rw [List.flatMap_cons] at h ⊢
    have hbind := mapM_eq_ok.2 h
    rw [List.mapM_append] at hbind
    obtain ⟨first, hfirst, hbind⟩ := except_bind_eq_ok.1 hbind
    obtain ⟨rest, hrest, hbind⟩ := except_bind_eq_ok.1 hbind
    obtain rfl := except_pure_eq_ok.1 hbind
    have hlength := (mapM_eq_ok.1 hfirst).length_eq
    have hnext := ih (mapM_eq_ok.1 hrest) (position + (item.expand table).length)
    rw [ResultColumn.projections_append hlength]
    cases item with
    | star token =>
      obtain rfl := Except.ok.inj (hfirst.symm.trans (mapM_eq_ok.2 (bindsTo_star hnodup token)))
      have hcount : ((SelectItem.star token).expand table).length = table.columns.length := List.length_map _
      rw [hcount] at hnext ⊢
      rw [projections, hnext, projections_star]
      rfl
    | expression e columnAlias =>
      obtain ⟨bound, _, hbound, hnil, rfl⟩ := List.forall₂_cons_left_iff.1 (mapM_eq_ok.1 hfirst)
      obtain rfl := List.forall₂_nil_left_iff.1 hnil
      have hcount : ((SelectItem.expression e columnAlias).expand table).length = 1 := rfl
      rw [hcount] at hnext ⊢
      have hexpression : BoundExpression.ofExpression (some table) e = .ok bound := hbound
      rw [projections, hexpression, hnext]
      show Except.ok ((heading position bound columnAlias, bound) :: _) = _
      rw [heading_eq hexpression]
      rfl

end Table

end SqlShell
