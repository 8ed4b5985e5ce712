import SqlShell.Proofs.Printing.Expression
/-!
# Reading printed statements

Each reader takes what the statement it reads is printed as, and stops where a clause begins that is not its own.
-/

namespace SqlShell

open Parsing Reader

variable {nesting : Nat} {followers : List Token.Kind}

/-! ### Columns -/

theorem takes_nullClause (nullability : NullClause) (hnot : .keyword .not ∉ followers)
    (hnull : .keyword .null ∉ followers) : Takes followers readNullClause nullability.kinds nullability := by
  cases nullability with
  | notNull => exact takes_keyword?_pos (takes_keyword (takes_pure _))
  | null =>
    have hnext : ∀ kind ∈ NullClause.null.kinds.head?, kind ≠ .keyword .not := by simp [NullClause.kinds]
    exact takes_keyword?_neg hnext (fun _ => hnot) (takes_keyword?_pos (takes_pure _))
  | unspecified =>
    have hnext (k : Keyword) : ∀ kind ∈ NullClause.unspecified.kinds.head?, kind ≠ .keyword k := by
      simp [NullClause.kinds]
    exact takes_keyword?_neg (hnext .not) (fun _ => hnot)
      (takes_keyword?_neg (hnext .null) (fun _ => hnull) (takes_pure _))

theorem takes_columnDefinition {column : ColumnDefinition} (h : column.Printable) :
    Takes [.symbol .comma, .symbol .rightParen] readColumnDefinition column.kinds
      (column.relocate fun _ => Location.start) :=
  takes_expect h.name (takes_expect h.type ((takes_nullClause _ (by decide) (by decide)).bind_pure _))

/-! ### Lists of expressions -/

theorem takes_alias {expected : Expectation} {name : Option Token} (h : ∀ t ∈ name, t.IsName)
    (hfollowers : .keyword .as_ ∉ followers) :
    Takes followers (namedAs? expected) (clause .as_ (name.map fun t => [t.kind]))
      (name.map (Token.relocate fun _ => Location.start)) :=
  takes_clause hfollowers fun t ht => takes_accepted (h t ht)

theorem takes_selectItem {item : SelectItem} (h : item.Printable nesting) :
    Takes [.symbol .comma, .keyword .from_] (readSelectItem nesting) item.kinds
      (item.relocate fun _ => Location.start) := by
  cases item with
  | star t =>
    have hstar : t.kind = .symbol .asterisk := h
    exact takes_take?_pos (by simp [hstar]) (takes_pure _)
  | expression e columnAlias =>
    obtain ⟨he, halias⟩ := h
    obtain ⟨first, others, hkinds, hfirst⟩ := he.kinds_eq_cons
    have htakes : Takes [.keyword .as_, .symbol .comma, .keyword .from_] (expression nesting).read e.kinds e.unplaced :=
      he.takes (by decide)
    refine takes_take?_neg ?_ ?_ (htakes.bind ((takes_alias halias (by decide)).bind_pure _) ?_ ?_)
    · simpa [SelectItem.kinds, hkinds] using hfirst
    · simp [SelectItem.kinds, hkinds]
    · intro kind hkind
      simp [head?_clause kind hkind]
    · simp

theorem takes_condition {condition : Option Expression} (h : ∀ e ∈ condition, e.Printable nesting)
    (hwhere : .keyword .where_ ∉ followers) (hfollowers : ∀ kind ∈ followers, level? kind = none) :
    Takes followers (condition? nesting) (clause .where_ (condition.map Expression.kinds))
      (condition.map Expression.unplaced) :=
  takes_clause hwhere fun e he => (h e he).takes hfollowers

theorem takes_descending (isDescending : Bool) (hdesc : .keyword .desc ∉ followers)
    (hasc : .keyword .asc ∉ followers) :
    Takes followers descending (if isDescending then [.keyword .desc] else []) isDescending := by
  cases isDescending with
  | true => exact takes_keyword?_pos (takes_pure _)
  | false =>
    exact takes_keyword?_neg (by simp) (fun _ => hdesc) (takes_keyword?_neg (by simp) (fun _ => hasc) (takes_pure _))

theorem takes_sortKey {key : SortKey} (h : key.expression.Printable nesting) :
    Takes [.symbol .comma, .symbol .semicolon] (readSortKey nesting) key.kinds
      (key.relocate fun _ => Location.start) := by
  have htakes : Takes [.keyword .desc, .symbol .comma, .symbol .semicolon] (expression nesting).read
      key.expression.kinds key.expression.unplaced :=
    h.takes (by decide)
  refine htakes.bind ((takes_descending key.descending (by decide) (by decide)).bind_pure _) ?_ ?_
  · cases key.descending <;> simp
  · simp

theorem takes_order {order : List SortKey} (h : ∀ key ∈ order, key.expression.Printable nesting) :
    Takes [.symbol .semicolon] (order? nesting) (orderKinds order)
      (order.map (SortKey.relocate fun _ => Location.start)) := by
  by_cases hempty : order = []
  · subst hempty
    exact takes_keyword?_neg (by simp [orderKinds]) (fun _ => by decide) (takes_pure _)
  · have hkeys : Takes [.symbol .semicolon] (sortKeys nesting).read (separated .comma (order.map SortKey.kinds)) _ :=
      takes_commaSeparated hempty (by decide) fun key hkey => takes_sortKey (h key hkey)
    rw [orderKinds, if_neg (by simpa using hempty)]
    exact takes_keyword?_pos (takes_keyword hkeys)

theorem takes_row {row : List Expression} (hne : row ≠ []) (h : ∀ e ∈ row, e.Printable nesting) :
    Takes followers (readRow nesting) (rowKinds row) (row.map Expression.unplaced) := by
  have hvalues : Takes [.symbol .rightParen] (expression nesting).commaSeparated.read
      (separated .comma (row.map Expression.kinds)) (row.map Expression.unplaced) :=
    takes_commaSeparated hne (by decide) fun e he => (h e he).takes (by decide)
  exact takes_symbol (hvalues.bind (takes_symbol (takes_pure _)) (by simp) (by simp))

theorem takes_assignment {assignment : Assignment} (hcolumn : assignment.column.IsName)
    (hvalue : assignment.value.Printable nesting) (hfollowers : ∀ kind ∈ followers, level? kind = none) :
    Takes followers (readAssignment nesting) assignment.kinds (assignment.relocate fun _ => Location.start) :=
  takes_expect hcolumn (takes_symbol ((hvalue.takes hfollowers).bind_pure _))

/-! ### Statements -/

theorem takes_createTable {s : CreateTable} (h : s.Printable) :
    Takes followers (statement nesting).read (Statement.create s).kinds (Statement.create s).unplaced := by
  have hcolumns : Takes [.symbol .rightParen] columnDefinitions.read
      (separated .comma (s.columns.map ColumnDefinition.kinds)) _ :=
    takes_commaSeparated h.columns_ne_nil (by decide) fun column hcolumn =>
      takes_columnDefinition (h.columns column hcolumn)
  have hbody : Takes followers readCreateTable _ (s.relocate fun _ => Location.start) :=
    takes_keyword (takes_expect h.name (takes_symbol
      (hcolumns.bind (takes_symbol (takes_pure _)) (by simp) (by simp))))
  exact takes_statement rfl (hbody.map Statement.create)

theorem takes_dropTable {s : DropTable} (h : s.name.IsName) :
    Takes followers (statement nesting).read (Statement.drop s).kinds (Statement.drop s).unplaced := by
  have hbody : Takes followers readDropTable _ (s.relocate fun _ => Location.start) :=
    takes_keyword (takes_expect h (takes_pure _))
  exact takes_statement rfl (hbody.map Statement.drop)

theorem takes_insert {s : Insert} (h : s.Printable nesting) (hfollowers : .symbol .comma ∉ followers) :
    Takes followers (statement nesting).read (Statement.insert s).kinds (Statement.insert s).unplaced := by
  have hrows : Takes followers (insertRows nesting).read (separated .comma (s.rows.map rowKinds)) _ :=
    takes_commaSeparated h.rows_ne_nil hfollowers fun row hrow => takes_row (h.row_ne_nil row hrow) (h.rows row hrow)
  have hbody : Takes followers (readInsert nesting) _ (s.relocate fun _ => Location.start) :=
    takes_keyword (takes_expect h.table (takes_keyword (hrows.bind_pure _)))
  exact takes_statement rfl (hbody.map Statement.insert)

theorem takes_select {s : Select} (h : s.Printable nesting) :
    Takes [.symbol .semicolon] (statement nesting).read (Statement.select s).kinds (Statement.select s).unplaced := by
  -- each clause may be followed by the clauses behind it, or by the end of the statement
  have hitems : Takes [.keyword .from_] (selectItems nesting).read
      (separated .comma (s.items.map SelectItem.kinds)) _ :=
    takes_commaSeparated h.items_ne_nil (by decide) fun item hitem => takes_selectItem (h.items item hitem)
  have halias : Takes [.keyword .where_, .keyword .order, .symbol .semicolon] (namedAs? .tableAlias) _ _ :=
    takes_alias h.tableAlias (by decide)
  have hcondition : Takes [.keyword .order, .symbol .semicolon] (condition? nesting) _ _ :=
    takes_condition h.condition (by decide) (by decide)
  have horder := takes_order h.order
  have horderHead : ∀ kind ∈ (orderKinds s.order).head?, kind = .keyword .order := by
    rw [orderKinds]
    split <;> simp
  have hclausesHead : ∀ kind ∈ (clause .where_ (s.condition.map Expression.kinds) ++ orderKinds s.order).head?,
      kind = .keyword .where_ ∨ kind = .keyword .order := by
    intro kind hkind
    rw [List.head?_append, Option.mem_def, Option.or_eq_some_iff] at hkind
    rcases hkind with hkind | ⟨-, hkind⟩
    · exact .inl (head?_clause kind hkind)
    · exact .inr (horderHead kind hkind)
  have hbody : Takes [.symbol .semicolon] (readSelect nesting) _ (s.relocate fun _ => Location.start) :=
    hitems.bind
      (takes_keyword (takes_expect h.table (halias.bind
        (hcondition.bind (horder.bind_pure _) (fun kind hkind => by simp [horderHead kind hkind]) (by simp))
        (fun kind hkind => by rcases hclausesHead kind hkind with rfl | rfl <;> simp) (by simp))))
      (by simp) (by simp)
  exact takes_statement rfl (hbody.map Statement.select)

theorem takes_delete {s : Delete} (h : s.Printable nesting) :
    Takes [.symbol .semicolon] (statement nesting).read (Statement.delete s).kinds (Statement.delete s).unplaced := by
  have hbody : Takes [.symbol .semicolon] (readDelete nesting) _ (s.relocate fun _ => Location.start) :=
    takes_keyword (takes_expect h.table ((takes_condition h.condition (by decide) (by decide)).bind_pure _))
  exact takes_statement rfl (hbody.map Statement.delete)

theorem takes_update {s : Update} (h : s.Printable nesting) :
    Takes [.symbol .semicolon] (statement nesting).read (Statement.update s).kinds (Statement.update s).unplaced := by
  have hassignments : Takes [.keyword .where_, .symbol .semicolon] (assignments nesting).read
      (separated .comma (s.assignments.map Assignment.kinds)) _ :=
    takes_commaSeparated h.assignments_ne_nil (by decide) fun assignment hassignment =>
      takes_assignment (h.columns assignment hassignment) (h.values assignment hassignment) (by decide)
  have hcondition : Takes [.symbol .semicolon] (condition? nesting) _ _ :=
    takes_condition h.condition (by decide) (by decide)
  have hbody : Takes [.symbol .semicolon] (readUpdate nesting) _ (s.relocate fun _ => Location.start) :=
    takes_expect h.table (takes_keyword (hassignments.bind (hcondition.bind_pure _)
      (fun kind hkind => by simp [head?_clause kind hkind]) (by simp)))
  exact takes_statement rfl (hbody.map Statement.update)

theorem Statement.Printable.takes {s : Statement} (h : s.Printable nesting) :
    Takes [.symbol .semicolon] (statement nesting).read s.kinds s.unplaced := by
  cases s with
  | create s => exact takes_createTable h
  | drop s => exact takes_dropTable h
  | insert s => exact takes_insert h (by decide)
  | select s => exact takes_select h
  | delete s => exact takes_delete h
  | update s => exact takes_update h

/-- The tokens of printed statements are parsed as these statements. -/
theorem parseKinds_printed {statements : List Statement} (h : ∀ s ∈ statements, s.Printable nestingLimit) :
    parseKinds (separated .semicolon (statements.map Statement.kinds)) = .ok (statements.map Statement.unplaced) :=
  parseKinds_separated fun s hs => (h s hs).takes

end SqlShell
