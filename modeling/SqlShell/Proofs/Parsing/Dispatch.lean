import SqlShell.Parsing.Batch
/-!
# The keyword of a statement

The six statement readers are tried one after another, but the first token alone decides which of them reads on:
`statement_read_cons` says that a statement is the body that belongs to its first keyword. What holds of the six
bodies therefore holds of statements, and what holds of statements holds of the statements of a batch
(`mem_readBatch`).
-/

namespace SqlShell.Parsing

open Reader

/-- The reader of what stands behind the first token of a statement. -/
def bodyOf? (nesting : Nat) : Token.Kind → Option (Reader Statement)
  | .keyword .select => some (.select <$> readSelect nesting)
  | .keyword .insert => some (.insert <$> readInsert nesting)
  | .keyword .update => some (.update <$> readUpdate nesting)
  | .keyword .delete => some (.delete <$> readDelete nesting)
  | .keyword .create => some (.create <$> readCreateTable)
  | .keyword .drop => some (.drop <$> readDropTable)
  | _ => none

theorem afterKeyword_cons {α : Type} (k : Keyword) (body : Reader α) (t : Token) (rest : List Token) :
    afterKeyword k body (t :: rest) =
      if t.kind = .keyword k then (some <$> body) rest else .ok (none, t :: rest) := by
  by_cases hkind : t.kind = .keyword k
  · have htake : take? (· = .keyword k) (t :: rest) = .ok (some t, rest) := by simp [take?, hkind]
    rw [if_pos hkind]
    show Except.bind (Except.bind (take? (· = .keyword k) (t :: rest)) _) _ = _
    rw [htake]
    rfl
  · have htake : take? (· = .keyword k) (t :: rest) = .ok (none, t :: rest) := by simp [take?, hkind]
    rw [if_neg hkind]
    show Except.bind (Except.bind (take? (· = .keyword k) (t :: rest)) _) _ = _
    rw [htake]
    rfl

theorem firstOf_cons {α β : Type} (expected : Expectation) (k : Keyword) (body : Reader α) (f : α → β)
    (readers : List (Reader (Option β))) (t : Token) (rest : List Token) :
    firstOf expected ((Option.map f <$> afterKeyword k body) :: readers) (t :: rest) =
      if t.kind = .keyword k then (f <$> body) rest else firstOf expected readers (t :: rest) := by
  show Except.bind (Except.bind (afterKeyword k body (t :: rest)) _) _ = _
  rw [afterKeyword_cons]
  by_cases hkind : t.kind = .keyword k
  · rw [if_pos hkind, if_pos hkind]
    show Except.bind (Except.bind (Except.bind (body rest) _) _) _ = Except.bind (body rest) _
    cases body rest <;> rfl
  · rw [if_neg hkind, if_neg hkind]
    rfl

theorem statement_read_nil (nesting : Nat) : (statement nesting).read [] = .error ⟨.statement, []⟩ := rfl

/-- The first token decides which reader goes on. -/
theorem statement_read_cons (nesting : Nat) (t : Token) (rest : List Token) :
    (statement nesting).read (t :: rest) =
      match bodyOf? nesting t.kind with
      | some body => body rest
      | none => .error ⟨.statement, t :: rest⟩ := by
  show firstOf .statement (statementReaders nesting) (t :: rest) = _
  simp only [statementReaders, select?, insert?, update?, delete?, createTable?, dropTable?, firstOf_cons]
  obtain ⟨kind, location⟩ := t
  cases kind with
  | keyword k => cases k <;> simp [bodyOf?, firstOf, fail]
  | _ => simp [bodyOf?, firstOf, fail]

/-- A statement is a keyword of its own and the body that belongs to it. -/
theorem statement_read_eq_ok {nesting : Nat} {tokens rest : List Token} {s : Statement} :
    (statement nesting).read tokens = .ok (s, rest) ↔
      ∃ t tail body, tokens = t :: tail ∧ bodyOf? nesting t.kind = some body ∧ body tail = .ok (s, rest) := by
  match tokens with
  | [] => simp [statement_read_nil]
  | t :: tail =>
    rw [statement_read_cons]
    cases hbody : bodyOf? nesting t.kind with
    | none =>
      simp only [reduceCtorEq, false_iff]
      rintro ⟨u, more, body, heq, hsome, -⟩
      obtain ⟨rfl, rfl⟩ := List.cons.inj heq
      simp [hbody] at hsome
    | some body =>
      constructor
      · exact fun h => ⟨t, tail, body, rfl, hbody, h⟩
      · rintro ⟨u, more, other, heq, hsome, h⟩
        obtain ⟨rfl, rfl⟩ := List.cons.inj heq
        obtain rfl := Option.some.inj (hbody.symm.trans hsome)
        exact h

/-- What holds of every statement that can be read holds of all statements of a batch. -/
theorem mem_readBatch {nesting : Nat} {P : Statement → Prop}
    (h : ∀ tokens s rest, (statement nesting).read tokens = .ok (s, rest) → P s) (tokens : List Token) :
    ∀ s ∈ (readBatch nesting tokens).statements, P s := by
  fun_induction readBatch nesting tokens with
  | case1 => simp
  | case2 => simp
  | case3 t tail s hstatement => simpa using h _ _ _ hstatement
  | case4 t tail s u rest hstatement hsemicolon batch ih =>
    intro s' hs'
    rcases List.mem_cons.1 hs' with rfl | hs'
    · exact h _ _ _ hstatement
    · exact ih s' hs'
  | case5 t tail s u rest hstatement hsemicolon => simpa using h _ _ _ hstatement

theorem mem_of_parse {P : Statement → Prop}
    (h : ∀ tokens s rest, (statement nestingLimit).read tokens = .ok (s, rest) → P s) {source : String}
    {statements : List Statement} (hparse : parse source = .ok statements) : ∀ s ∈ statements, P s := by
  rw [parse] at hparse
  split at hparse
  · simp at hparse
  · next tokens _ =>
    rw [parseTokens] at hparse
    split at hparse
    · next found _ hbatch =>
      obtain rfl := Except.ok.inj hparse
      simpa [hbatch] using mem_readBatch h tokens
    · simp at hparse

/-! ### Nonempty lists -/

/-- A list with commas has at least one item. -/
theorem commaSeparated_ne_nil {α : Type} {item : Phrase α} {tokens rest : List Token} {items : List α}
    (h : item.commaSeparated.read tokens = .ok (items, rest)) : items ≠ [] := by
  change item.readCommaSeparated tokens = _ at h
  rw [Phrase.readCommaSeparated.eq_def] at h
  split at h
  · simp at h
  · obtain ⟨rfl, -⟩ := Prod.mk.inj (Except.ok.inj h)
    simp
  · split at h
    · split at h
      · simp at h
      · obtain ⟨rfl, -⟩ := Prod.mk.inj (Except.ok.inj h)
        simp
    · obtain ⟨rfl, -⟩ := Prod.mk.inj (Except.ok.inj h)
      simp

theorem readCreateTable_columns_ne_nil {tokens rest : List Token} {s : CreateTable}
    (h : readCreateTable tokens = .ok (s, rest)) : s.columns ≠ [] := by
  obtain ⟨_, _, -, h⟩ := bind_eq_ok.1 h
  obtain ⟨_, _, -, h⟩ := bind_eq_ok.1 h
  obtain ⟨_, _, -, h⟩ := bind_eq_ok.1 h
  obtain ⟨columns, _, hcolumns, h⟩ := bind_eq_ok.1 h
  obtain ⟨_, _, -, h⟩ := bind_eq_ok.1 h
  obtain ⟨rfl, -⟩ := pure_eq_ok.1 h
  exact commaSeparated_ne_nil hcolumns

end SqlShell.Parsing
