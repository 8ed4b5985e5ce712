import SqlShell.Token.Basic
/-!
# Readers of token lists

A reader takes tokens from the front of a list and hands back the tokens it has left. One token of look-ahead
decides every choice, so a reader never goes back: where it fails, it fails for good, and the failure keeps the
tokens from the offending one on. `Reader.FromFront` says that a reader only ever drops tokens from the front
of its list, and `Reader.Progresses` that it drops at least one, which is what lets readers be repeated.
-/

namespace SqlShell

/-- What the grammar has room for at some place. -/
inductive Expectation where
  | lexeme
  | keyword (keyword : Keyword)
  | symbol (symbol : Symbol)
  | expression
  /-- No parenthesis may be opened inside `limit` others. -/
  | nesting (limit : Nat)
  | columnAlias
  | tableAlias
  | tableName
  | columnName
  | columnType
  | statementEnd
  | statement
deriving DecidableEq, Inhabited

/-- How messages name what was expected. -/
def Expectation.message : Expectation → String
  | .lexeme => "a keyword, symbol, identifier or literal"
  | .keyword k => k.display
  | .symbol s => s.display
  | .expression => "an expression"
  | .nesting limit => s!"at most {limit} levels of nested parentheses"
  | .columnAlias => "column alias"
  | .tableAlias => "table alias"
  | .tableName => "table name"
  | .columnName => "column name"
  | .columnType => "column type"
  | .statementEnd => "';' after statement"
  | .statement => "a statement (SELECT, INSERT, UPDATE, DELETE, CREATE TABLE or DROP TABLE)"

/-- Where a reader failed: what it expected, and the tokens from the offending one on. -/
structure Failure where
  expected : Expectation
  rest : List Token
deriving DecidableEq, Inhabited

/-- Takes tokens from the front of a list. -/
abbrev Reader (α : Type) := StateT (List Token) (Except Failure) α

namespace Reader

/-- Fails in front of the next token. -/
def fail {α : Type} (expected : Expectation) : Reader α :=
  fun rest => .error ⟨expected, rest⟩

/-- Takes the next token if it is of an accepted kind. -/
def take? (accepts : Token.Kind → Bool) : Reader (Option Token)
  | [] => .ok (none, [])
  | t :: rest => if accepts t.kind then .ok (some t, rest) else .ok (none, t :: rest)

/-- Takes the next token, which must be of an accepted kind. -/
def expect (accepts : Token.Kind → Bool) (expected : Expectation) : Reader Token
  | [] => .error ⟨expected, []⟩
  | t :: rest => if accepts t.kind then .ok (t, rest) else .error ⟨expected, t :: rest⟩

/-- Takes a keyword if it comes next, and says whether it did. -/
def keyword? (k : Keyword) : Reader Bool :=
  Option.isSome <$> take? (· = .keyword k)

/-- Takes a keyword, which must come next. -/
def keyword (k : Keyword) : Reader Unit :=
  (fun _ => ()) <$> expect (· = .keyword k) (.keyword k)

/-- Takes a sign, which must come next. -/
def symbol (s : Symbol) : Reader Unit :=
  (fun _ => ()) <$> expect (· = .symbol s) (.symbol s)

/-- A token kind that is a name. -/
def isIdentifier : Token.Kind → Bool
  | .identifier _ => true
  | _ => false

/-- Takes a name, which must come next. -/
def identifier (expected : Expectation) : Reader Token :=
  expect isIdentifier expected

/-- The reader only drops tokens from the front. -/
def FromFront {α : Type} (p : Reader α) : Prop :=
  ∀ ⦃tokens a rest⦄, p tokens = .ok (a, rest) → rest <:+ tokens

/-- The reader drops at least one token, and only from the front. -/
def Progresses {α : Type} (p : Reader α) : Prop :=
  ∀ ⦃tokens a rest⦄, p tokens = .ok (a, rest) → rest <:+ tokens ∧ rest.length < tokens.length

theorem Progresses.fromFront {α : Type} {p : Reader α} (h : p.Progresses) : p.FromFront :=
  fun _ _ _ hp => (h hp).1

theorem bind_of_ok {α β : Type} {p : Reader α} {f : α → Reader β} {tokens rest : List Token} {a : α}
    (h : p tokens = .ok (a, rest)) : (p >>= f) tokens = f a rest := by
  show Except.bind (p tokens) _ = _
  rw [h]
  rfl

theorem bind_of_error {α β : Type} {p : Reader α} {f : α → Reader β} {tokens : List Token} {e : Failure}
    (h : p tokens = .error e) : (p >>= f) tokens = .error e := by
  show Except.bind (p tokens) _ = _
  rw [h]
  rfl

theorem bind_eq_ok {α β : Type} {p : Reader α} {f : α → Reader β} {tokens rest : List Token} {b : β} :
    (p >>= f) tokens = .ok (b, rest) ↔
      ∃ a middle, p tokens = .ok (a, middle) ∧ f a middle = .ok (b, rest) := by
  show Except.bind (p tokens) (fun pair => f pair.1 pair.2) = _ ↔ _
  rcases p tokens with e | ⟨a, middle⟩
  · simp [Except.bind]
  · constructor
    · exact fun h => ⟨a, middle, rfl, h⟩
    · rintro ⟨_, _, h, hf⟩
      obtain ⟨rfl, rfl⟩ := Prod.mk.inj (Except.ok.inj h)
      exact hf

theorem map_eq_ok {α β : Type} {p : Reader α} {f : α → β} {tokens rest : List Token} {b : β} :
    (f <$> p) tokens = .ok (b, rest) ↔ ∃ a, p tokens = .ok (a, rest) ∧ f a = b := by
  show Except.bind (p tokens) (fun pair => .ok (f pair.1, pair.2)) = _ ↔ _
  rcases p tokens with e | ⟨a, middle⟩
  · simp [Except.bind]
  · simp only [Except.bind, Except.ok.injEq, Prod.mk.injEq]
    constructor
    · rintro ⟨rfl, rfl⟩
      exact ⟨a, ⟨rfl, rfl⟩, rfl⟩
    · rintro ⟨_, ⟨rfl, rfl⟩, rfl⟩
      exact ⟨rfl, rfl⟩

theorem pure_eq_ok {α : Type} {a b : α} {tokens rest : List Token} :
    (pure a : Reader α) tokens = .ok (b, rest) ↔ a = b ∧ tokens = rest := by
  show Except.ok (a, tokens) = _ ↔ _
  simp

theorem expect_eq_ok {accepts : Token.Kind → Bool} {expected : Expectation} {tokens rest : List Token} {t : Token} :
    expect accepts expected tokens = .ok (t, rest) ↔ accepts t.kind = true ∧ tokens = t :: rest := by
  match tokens with
  | [] => simp [expect]
  | u :: tail =>
    rw [expect]
    constructor
    · intro h
      split at h
      · next haccepts =>
        obtain ⟨rfl, rfl⟩ := Prod.mk.inj (Except.ok.inj h)
        exact ⟨haccepts, rfl⟩
      · simp at h
    · rintro ⟨haccepts, heq⟩
      obtain ⟨rfl, rfl⟩ := List.cons.inj heq
      rw [if_pos haccepts]

theorem FromFront.pure {α : Type} (a : α) : FromFront (pure a : Reader α) := by
  intro tokens b rest h
  obtain ⟨-, rfl⟩ := pure_eq_ok.1 h
  exact List.suffix_refl _

theorem FromFront.bind {α β : Type} {p : Reader α} {f : α → Reader β} (hp : p.FromFront)
    (hf : ∀ a, (f a).FromFront) : (p >>= f).FromFront := by
  intro tokens b rest h
  obtain ⟨a, middle, ha, hb⟩ := bind_eq_ok.1 h
  exact (hf a hb).trans (hp ha)

theorem FromFront.map {α β : Type} {p : Reader α} (f : α → β) (hp : p.FromFront) : (f <$> p).FromFront := by
  intro tokens b rest h
  obtain ⟨a, ha, -⟩ := map_eq_ok.1 h
  exact hp ha

theorem FromFront.take? (accepts : Token.Kind → Bool) : (take? accepts).FromFront := by
  intro tokens a rest h
  match tokens with
  | [] =>
    obtain ⟨-, rfl⟩ := Prod.mk.inj (Except.ok.inj h)
    exact List.suffix_refl _
  | t :: tail =>
    rw [Reader.take?] at h
    split at h
    · obtain ⟨-, rfl⟩ := Prod.mk.inj (Except.ok.inj h)
      exact List.suffix_cons _ _
    · obtain ⟨-, rfl⟩ := Prod.mk.inj (Except.ok.inj h)
      exact List.suffix_refl _

theorem FromFront.keyword? (k : Keyword) : (keyword? k).FromFront :=
  (FromFront.take? _).map _

theorem Progresses.expect (accepts : Token.Kind → Bool) (expected : Expectation) :
    (expect accepts expected).Progresses := by
  intro tokens a rest h
  match tokens with
  | [] => simp [Reader.expect] at h
  | t :: tail =>
    rw [Reader.expect] at h
    split at h
    · obtain ⟨-, rfl⟩ := Prod.mk.inj (Except.ok.inj h)
      exact ⟨List.suffix_cons _ _, by simp⟩
    · simp at h

theorem Progresses.map {α β : Type} {p : Reader α} (f : α → β) (hp : p.Progresses) : (f <$> p).Progresses := by
  intro tokens b rest h
  obtain ⟨a, ha, -⟩ := map_eq_ok.1 h
  exact hp ha

theorem Progresses.keyword (k : Keyword) : (keyword k).Progresses :=
  (Progresses.expect _ _).map _

theorem Progresses.symbol (s : Symbol) : (symbol s).Progresses :=
  (Progresses.expect _ _).map _

theorem Progresses.identifier (expected : Expectation) : (identifier expected).Progresses :=
  Progresses.expect _ _

theorem Progresses.fail {α : Type} (expected : Expectation) : Progresses (fail expected : Reader α) := by
  intro tokens a rest h
  simp [Reader.fail] at h

/-- A reader that goes on after one that progresses. -/
theorem Progresses.bind {α β : Type} {p : Reader α} {f : α → Reader β} (hp : p.Progresses)
    (hf : ∀ a, (f a).FromFront) : (p >>= f).Progresses := by
  intro tokens b rest h
  obtain ⟨a, middle, ha, hb⟩ := bind_eq_ok.1 h
  exact ⟨(hf a hb).trans (hp ha).1, Nat.lt_of_le_of_lt (hf a hb).length_le (hp ha).2⟩

end Reader

end SqlShell
