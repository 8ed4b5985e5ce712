import SqlShell.Proofs.Printing.Statement
/-!
# Printing and parsing

All tokens of printed statements can be spelled, so that printed statements scan as their tokens; and these are parsed
as the statements. Together, parsing what is printed gives the statements back (`Statement.parse_print`).
-/

namespace SqlShell

open Parsing Text

/-! ### Printed trees -/

section Spellable

variable {P : Token.Kind → Prop} {kinds : List Token.Kind}

theorem forall_mem_separated {sign : Symbol} {items : List (List Token.Kind)} (hsign : P (.symbol sign))
    (h : ∀ item ∈ items, ∀ kind ∈ item, P kind) : ∀ kind ∈ separated sign items, P kind := by
  induction items with
  | nil => simp [separated]
  | cons item items ih =>
    obtain ⟨hitem, hitems⟩ := List.forall_mem_cons.1 h
    cases items with
    | nil => simpa [separated] using hitem
    | cons next items =>
      rw [separated, List.intercalate_cons_cons, List.forall_mem_append, List.forall_mem_append]
      exact ⟨⟨hitem, by simpa using hsign⟩, ih hitems⟩

theorem forall_mem_parenthesized (hleft : P (.symbol .leftParen)) (hright : P (.symbol .rightParen))
    (h : ∀ kind ∈ kinds, P kind) : ∀ kind ∈ parenthesized kinds, P kind := by
  rw [parenthesized, List.forall_mem_cons, List.forall_mem_append]
  exact ⟨hleft, h, by simpa using hright⟩

theorem forall_mem_clause {k : Keyword} {body : Option (List Token.Kind)} (hk : P (.keyword k))
    (h : ∀ kinds ∈ body, ∀ kind ∈ kinds, P kind) : ∀ kind ∈ clause k body, P kind := by
  cases body with
  | none => simp [clause]
  | some kinds => exact List.forall_mem_cons.2 ⟨hk, h kinds rfl⟩

end Spellable

variable {nesting : Nat}

@[simp] theorem isSpellable_keyword (k : Keyword) : (Token.Kind.keyword k).IsSpellable := trivial

@[simp] theorem isSpellable_symbol (s : Symbol) : (Token.Kind.symbol s).IsSpellable := trivial

theorem Token.IsName.isSpellable {t : Token} (h : t.IsName) : t.kind.IsSpellable := by
  rw [Token.IsName] at h
  cases hkind : t.kind with
  | numeral text => simp [hkind, Reader.isIdentifier] at h
  | _ => trivial

theorem isSpellable_of_isTypeWord {kind : Token.Kind} (h : isTypeWord kind = true) : kind.IsSpellable := by
  cases kind with
  | numeral text => simp [isTypeWord] at h
  | _ => trivial

theorem isSpellable_of_isSign {kind : Token.Kind} (h : IsSign kind) : kind.IsSpellable := by
  cases h <;> trivial

theorem isSpellable_of_level? {kind : Token.Kind} (h : (level? kind).isSome = true) : kind.IsSpellable := by
  cases kind with
  | numeral text => simp [level?] at h
  | _ => trivial

theorem isSpellable_alias {name : Option Token} (h : ∀ t ∈ name, t.IsName) :
    ∀ kind ∈ clause .as_ (name.map fun t => [t.kind]), kind.IsSpellable := by
  refine forall_mem_clause trivial ?_
  rintro kinds hkinds kind hkind
  obtain ⟨t, ht, rfl⟩ := Option.map_eq_some_iff.1 hkinds
  obtain rfl := List.mem_singleton.1 hkind
  exact (h t ht).isSpellable

namespace Expression

theorem WellFormed.isSpellable {e : Expression} (h : e.WellFormed) : ∀ kind ∈ e.kinds, kind.IsSpellable := by
  have hplace {e : Expression} {place : Nonterminal} (h : ∀ kind ∈ e.kinds, kind.IsSpellable) :
      ∀ kind ∈ (if e.IsLooser place then parenthesized e.kinds else e.kinds), kind.IsSpellable := by
    split
    · exact forall_mem_parenthesized trivial trivial h
    · exact h
  induction h with
  | term _ hspellable => simpa [kinds] using hspellable
  | unary _ hsigns _ ih =>
    rw [kinds, List.forall_mem_append]
    refine ⟨?_, hplace ih⟩
    intro kind hkind
    obtain ⟨sign, hsign, rfl⟩ := List.mem_map.1 hkind
    exact isSpellable_of_isSign (hsigns sign (List.mem_reverse.1 hsign))
  | binary hoperator _ _ ihLeft ihRight =>
    rw [kinds, List.forall_mem_append, List.forall_mem_cons]
    exact ⟨hplace ihLeft, isSpellable_of_level? hoperator, hplace ihRight⟩

theorem isSpellable_condition {condition : Option Expression} (h : ∀ e ∈ condition, e.Printable nesting) :
    ∀ kind ∈ clause .where_ (condition.map kinds), kind.IsSpellable := by
  refine forall_mem_clause trivial ?_
  intro found hfound
  obtain ⟨e, he, rfl⟩ := Option.map_eq_some_iff.1 hfound
  exact (h e he).wellFormed.isSpellable

end Expression

theorem isSpellable_items {α : Type} {sign : Symbol} {items : List α} {kindsOf : α → List Token.Kind}
    (h : ∀ item ∈ items, ∀ kind ∈ kindsOf item, kind.IsSpellable) :
    ∀ kind ∈ separated sign (items.map kindsOf), kind.IsSpellable := by
  refine forall_mem_separated trivial ?_
  intro kinds hkinds
  obtain ⟨item, hitem, rfl⟩ := List.mem_map.1 hkinds
  exact h item hitem

theorem ColumnDefinition.Printable.isSpellable {column : ColumnDefinition} (h : column.Printable) :
    ∀ kind ∈ column.kinds, kind.IsSpellable := by
  rw [ColumnDefinition.kinds, List.forall_mem_cons, List.forall_mem_cons]
  refine ⟨h.name.isSpellable, isSpellable_of_isTypeWord h.type, ?_⟩
  cases column.nullability <;> simp [NullClause.kinds]

theorem SelectItem.Printable.isSpellable {item : SelectItem} (h : item.Printable nesting) :
    ∀ kind ∈ item.kinds, kind.IsSpellable := by
  cases item with
  | star t =>
    have hstar : t.kind = .symbol .asterisk := h
    simp [SelectItem.kinds, hstar]
  | expression e columnAlias =>
    rw [SelectItem.kinds, List.forall_mem_append]
    exact ⟨h.1.wellFormed.isSpellable, isSpellable_alias h.2⟩

theorem isSpellable_order {order : List SortKey} (h : ∀ key ∈ order, key.expression.Printable nesting) :
    ∀ kind ∈ orderKinds order, kind.IsSpellable := by
  rw [orderKinds]
  split
  · simp
  · refine List.forall_mem_cons.2 ⟨trivial, List.forall_mem_cons.2 ⟨trivial, isSpellable_items ?_⟩⟩
    intro key hkey
    rw [SortKey.kinds, List.forall_mem_append]
    refine ⟨(h key hkey).wellFormed.isSpellable, ?_⟩
    split <;> simp

theorem Statement.Printable.isSpellable {s : Statement} (h : s.Printable nesting) :
    ∀ kind ∈ s.kinds, kind.IsSpellable := by
  cases s with
  | create s =>
    have h : s.Printable := h
    have hcolumns : ∀ kind ∈ separated .comma (s.columns.map ColumnDefinition.kinds), kind.IsSpellable :=
      isSpellable_items fun column hcolumn => (h.columns column hcolumn).isSpellable
    simpa [kinds, h.name.isSpellable] using forall_mem_parenthesized trivial trivial hcolumns
  | drop s =>
    have h : s.name.IsName := h
    simp [kinds, h.isSpellable]
  | insert s =>
    have h : s.Printable nesting := h
    have hrows : ∀ kind ∈ separated .comma (s.rows.map rowKinds), kind.IsSpellable :=
      isSpellable_items fun row hrow => forall_mem_parenthesized trivial trivial
        (isSpellable_items fun e he => (h.rows row hrow e he).wellFormed.isSpellable)
    simpa [kinds, h.table.isSpellable] using hrows
  | select s =>
    have h : s.Printable nesting := h
    simp only [kinds, List.forall_mem_cons, List.forall_mem_append]
    exact ⟨trivial, isSpellable_items fun item hitem => (h.items item hitem).isSpellable, trivial, h.table.isSpellable,
      isSpellable_alias h.tableAlias, Expression.isSpellable_condition h.condition, isSpellable_order h.order⟩
  | delete s =>
    have h : s.Printable nesting := h
    simpa [kinds, h.table.isSpellable] using Expression.isSpellable_condition h.condition
  | update s =>
    have h : s.Printable nesting := h
    simp only [kinds, List.forall_mem_cons, List.forall_mem_append]
    refine ⟨trivial, h.table.isSpellable, trivial, isSpellable_items ?_, Expression.isSpellable_condition h.condition⟩
    intro assignment hassignment
    rw [Assignment.kinds, List.forall_mem_cons, List.forall_mem_cons]
    exact ⟨(h.columns assignment hassignment).isSpellable, trivial,
      (h.values assignment hassignment).wellFormed.isSpellable⟩

/-! ### Batches -/

namespace Statement

theorem scans_print {statements : List Statement} (h : ∀ s ∈ statements, s.Printable nesting) :
    Scans false (print statements).toList (separated .semicolon (statements.map kinds)) := by
  have hpieces : List.Forall₂ Spells (statements.map fun s => (printTokens s.kinds).toList) (statements.map kinds) := by
    rw [List.forall₂_map_left_iff, List.forall₂_map_right_iff, List.forall₂_same]
    exact fun s hs => spells_printTokens (h s hs).isSpellable
  have hsemicolon : Leads [';'] [.symbol .semicolon] := leads_symbol .semicolon rfl rfl (by decide)
  have hspells := spells_intercalate hsemicolon (by decide) hpieces
  simpa [print, separated, Function.comp_def] using hspells.scans

/-- Parsing what is printed gives the statements back, up to places, if no more than 256 parentheses are open at once
in an expression. -/
theorem parse_print {statements : List Statement} (h : ∀ s ∈ statements, s.Printable nestingLimit) :
    ∃ found, parse (print statements) = .ok found ∧
      found.map Statement.unplaced = statements.map Statement.unplaced :=
  parse_of_scans (scans_print h) (parseKinds_printed h)

/-- A difference to the right of a minus sign, signs under signs, a looser operator under a tighter one, and a type that
is a keyword of the clause behind it. -/
theorem parse_print_of_parentheses :
    ∃ statements : List Statement, (∀ s ∈ statements, s.Printable nestingLimit) ∧
      print statements =
        "SELECT 1 - ( NOT - ( + .5 ) - 'it''s' ) AS \"x\"\"y\" , * FROM \"t\" WHERE ( \"a\" OR NULL ) AND true " ++
          "ORDER BY \"a\" DESC;CREATE TABLE \"c\" ( \"n\" NOT NOT NULL )" ∧
      ∃ found, parse (print statements) = .ok found ∧
        found.map Statement.unplaced = statements.map Statement.unplaced := by
  have hprintable : ∀ s ∈ [
      Statement.select
        ⟨[.expression
            (.binary (.ofKind (.symbol .minus)) (.term (.ofKind (.numeral "1")))
              (.binary (.ofKind (.symbol .minus))
                (.unary [.ofKind (.symbol .minus), .ofKind (.keyword .not)]
                  (.unary [.ofKind (.symbol .plus)] (.term (.ofKind (.numeral ".5")))))
                (.term (.ofKind (.string "it's")))))
            (some (.ofKind (.identifier "x\"y"))),
          .star (.ofKind (.symbol .asterisk))],
          .ofKind (.identifier "t"), none,
          some (.binary (.ofKind (.keyword .and))
            (.binary (.ofKind (.keyword .or)) (.term (.ofKind (.identifier "a"))) (.term (.ofKind (.keyword .null))))
            (.term (.ofKind (.boolean true)))),
          [⟨.term (.ofKind (.identifier "a")), true⟩]⟩,
      .create ⟨.ofKind (.identifier "c"), [⟨.ofKind (.identifier "n"), .ofKind (.keyword .not), .notNull⟩]⟩],
      s.Printable nestingLimit := by
    decide +kernel
  exact ⟨_, hprintable, by decide +kernel, parse_print hprintable⟩

end Statement

end SqlShell
