import SqlShell.Proofs.Parsing.Dispatch
import SqlShell.Proofs.Parsing.Climbing
/-!
# What readers look at

A reader decides by the kinds of tokens alone, and a reader of statements never looks past a semicolon. Both are one
fact. A relation between token lists is a matching (`TokenMatching`) if matched lists start with tokens of the same
kind, the second one moved, and go on matched unless these are semicolons. On matched lists a reader does the same
(`Reader.Follows`): it fails on both, expecting the same in front of matched lists, or it reads the same on both, moved,
and leaves matched lists. The relation between readers is kept by `bind` and `map`, so each reader of the grammar has
one short lemma, in the order in which the readers are defined. At the end stands the matching of lists of which one is
the other moved, and what it says of whole token lists (`parseTokens_map`).
-/

namespace SqlShell

variable (f : Location → Location)

/-! ### Moved syntax -/

/-- The token at another place. -/
def Token.relocate (t : Token) : Token :=
  ⟨t.kind, f t.location⟩

@[simp] theorem Token.kind_relocate (t : Token) : (t.relocate f).kind = t.kind := rfl

@[simp] theorem Token.text_relocate (t : Token) : (t.relocate f).text = t.text := rfl

/-- The expression with all of its tokens moved. -/
def Expression.relocate : Expression → Expression
  | .term t => .term (t.relocate f)
  | .unary operators operand => .unary (operators.map (Token.relocate f)) operand.relocate
  | .binary operator left right => .binary (operator.relocate f) left.relocate right.relocate

def ColumnDefinition.relocate (d : ColumnDefinition) : ColumnDefinition :=
  ⟨d.name.relocate f, d.type.relocate f, d.nullability⟩

def SelectItem.relocate : SelectItem → SelectItem
  | .star t => .star (t.relocate f)
  | .expression e columnAlias => .expression (e.relocate f) (columnAlias.map (Token.relocate f))

def SortKey.relocate (key : SortKey) : SortKey :=
  ⟨key.expression.relocate f, key.descending⟩

def Assignment.relocate (assignment : Assignment) : Assignment :=
  ⟨assignment.column.relocate f, assignment.value.relocate f⟩

def CreateTable.relocate (s : CreateTable) : CreateTable :=
  ⟨s.name.relocate f, s.columns.map (ColumnDefinition.relocate f)⟩

def DropTable.relocate (s : DropTable) : DropTable :=
  ⟨s.name.relocate f⟩

def Insert.relocate (s : Insert) : Insert :=
  ⟨s.table.relocate f, s.rows.map (List.map (Expression.relocate f))⟩

def Select.relocate (s : Select) : Select :=
  ⟨s.items.map (SelectItem.relocate f), s.table.relocate f, s.tableAlias.map (Token.relocate f),
    s.condition.map (Expression.relocate f), s.order.map (SortKey.relocate f)⟩

def Delete.relocate (s : Delete) : Delete :=
  ⟨s.table.relocate f, s.condition.map (Expression.relocate f)⟩

def Update.relocate (s : Update) : Update :=
  ⟨s.table.relocate f, s.assignments.map (Assignment.relocate f), s.condition.map (Expression.relocate f)⟩

/-- The failure with the tokens that it keeps moved. -/
def Failure.relocate (failure : Failure) : Failure :=
  ⟨failure.expected, failure.rest.map (Token.relocate f)⟩

/-- The statement with all of its tokens moved. -/
def Statement.relocate : Statement → Statement
  | .create s => .create (s.relocate f)
  | .drop s => .drop (s.relocate f)
  | .insert s => .insert (s.relocate f)
  | .select s => .select (s.relocate f)
  | .delete s => .delete (s.relocate f)
  | .update s => .update (s.relocate f)

/-! ### Readers on matched lists -/

/-- Matched lists start alike, and go on matched behind every token but a semicolon. -/
structure TokenMatching (R : List Token → List Token → Prop) : Prop where
  nil : ∀ {other}, R [] other → other = []
  cons : ∀ {t rest other}, R (t :: rest) other →
    ∃ rest', other = t.relocate f :: rest' ∧ (t.kind ≠ .symbol .semicolon → R rest rest')

theorem TokenMatching.head? {f : Location → Location} {R : List Token → List Token → Prop} (hR : TokenMatching f R)
    {tokens other : List Token} (h : R tokens other) : other.head? = tokens.head?.map (Token.relocate f) := by
  match tokens with
  | [] => rw [hR.nil h]; rfl
  | t :: rest =>
    obtain ⟨rest', rfl, -⟩ := hR.cons h
    rfl

namespace Reader

variable {α β γ δ : Type} {R : List Token → List Token → Prop}

/-- The second result is the first one under `act` and leaves a matched list, or both fail in front of matched lists
and expect the same there. -/
inductive Alike (R : List Token → List Token → Prop) (act : α → β) :
    Except Failure (α × List Token) → Except Failure (β × List Token) → Prop
  | read (a : α) {rest rest' : List Token} (h : R rest rest') : Alike R act (.ok (a, rest)) (.ok (act a, rest'))
  | failed (expected : Expectation) {rest rest' : List Token} (h : R rest rest') :
      Alike R act (.error ⟨expected, rest⟩) (.error ⟨expected, rest'⟩)

/-- On matched lists the second reader does what the first one does. -/
def Follows (R : List Token → List Token → Prop) (act : α → β) (p : Reader α) (q : Reader β) : Prop :=
  ∀ ⦃tokens other⦄, R tokens other → Alike R act (p tokens) (q other)

theorem Follows.of_ok {act : α → β} {p : Reader α} {q : Reader β} (hp : Follows R act p q)
    {tokens other rest : List Token} {a : α} (h : R tokens other) (hread : p tokens = .ok (a, rest)) :
    ∃ rest', q other = .ok (act a, rest') ∧ R rest rest' := by
  have halike := hp h
  rw [hread] at halike
  generalize q other = result at halike
  cases halike with
  | read _ hrest => exact ⟨_, rfl, hrest⟩

theorem Follows.of_error {act : α → β} {p : Reader α} {q : Reader β} (hp : Follows R act p q)
    {tokens other : List Token} {e : Failure} (h : R tokens other) (hread : p tokens = .error e) :
    ∃ rest', q other = .error ⟨e.expected, rest'⟩ ∧ R e.rest rest' := by
  have halike := hp h
  rw [hread] at halike
  generalize q other = result at halike
  cases halike with
  | failed _ hrest => exact ⟨_, rfl, hrest⟩

theorem Follows.pure (act : α → β) (a : α) : Follows R act (pure a : Reader α) (pure (act a) : Reader β) :=
  fun _ _ h => .read a h

theorem Follows.bind {act : α → β} {act' : γ → δ} {p : Reader α} {q : Reader β} {k : α → Reader γ}
    {l : β → Reader δ} (hp : Follows R act p q) (hk : ∀ a, Follows R act' (k a) (l (act a))) :
    Follows R act' (p >>= k) (q >>= l) := by
  intro tokens other h
  show Alike R act' (Except.bind (p tokens) fun pair => k pair.1 pair.2)
    (Except.bind (q other) fun pair => l pair.1 pair.2)
  have hread := hp h
  generalize p tokens = result, q other = result' at hread
  cases hread with
  | read a hrest => exact hk a hrest
  | failed expected hrest => exact .failed expected hrest

theorem Follows.map {act : α → β} {act' : γ → δ} {p : Reader α} {q : Reader β} {g : α → γ} {g' : β → δ}
    (hp : Follows R act p q) (hg : ∀ a, g' (act a) = act' (g a)) : Follows R act' (g <$> p) (g' <$> q) := by
  intro tokens other h
  show Alike R act' (Except.bind (p tokens) fun pair => .ok (g pair.1, pair.2))
    (Except.bind (q other) fun pair => .ok (g' pair.1, pair.2))
  have hread := hp h
  generalize p tokens = result, q other = result' at hread
  cases hread with
  | @read a rest rest' hrest =>
    show Alike R act' (.ok (g a, rest)) (.ok (g' (act a), rest'))
    exact hg a ▸ .read (g a) hrest
  | failed expected hrest => exact .failed expected hrest

/-- A choice between two readers follows if both do. -/
theorem Follows.ite {act : α → β} {p p' : Reader α} {q q' : Reader β} (found : Bool) (hp : Follows R act p q)
    (hp' : Follows R act p' q') : Follows R act (if found = true then p else p') (if found = true then q else q') := by
  cases found
  · exact hp'
  · exact hp

variable {f} (hR : TokenMatching f R)
include hR

theorem Follows.take? (accepts : Token.Kind → Bool) (hsemicolon : accepts (.symbol .semicolon) = false) :
    Follows R (Option.map (Token.relocate f)) (take? accepts) (take? accepts) := by
  intro tokens other h
  match tokens with
  | [] =>
    obtain rfl := hR.nil h
    exact .read none h
  | t :: rest =>
    obtain ⟨rest', rfl, hrest⟩ := hR.cons h
    by_cases haccepts : accepts t.kind = true
    · have hkind : t.kind ≠ .symbol .semicolon := by
        intro hkind
        simp [hkind, hsemicolon] at haccepts
      simp only [Reader.take?, Token.kind_relocate, haccepts, if_true]
      exact .read (some t) (hrest hkind)
    · simp only [Reader.take?, Token.kind_relocate, haccepts, if_false, Bool.false_eq_true]
      exact .read none h

theorem Follows.expect (accepts : Token.Kind → Bool) (hsemicolon : accepts (.symbol .semicolon) = false)
    (expected : Expectation) :
    Follows R (Token.relocate f) (expect accepts expected) (expect accepts expected) := by
  intro tokens other h
  match tokens with
  | [] =>
    obtain rfl := hR.nil h
    exact .failed _ h
  | t :: rest =>
    obtain ⟨rest', rfl, hrest⟩ := hR.cons h
    by_cases haccepts : accepts t.kind = true
    · have hkind : t.kind ≠ .symbol .semicolon := by
        intro hkind
        simp [hkind, hsemicolon] at haccepts
      simp only [Reader.expect, Token.kind_relocate, haccepts, if_true]
      exact .read t (hrest hkind)
    · simp only [Reader.expect, Token.kind_relocate, haccepts, if_false, Bool.false_eq_true]
      exact .failed _ h

theorem Follows.keyword? (k : Keyword) : Follows R id (keyword? k) (keyword? k) :=
  (Follows.take? hR (· = .keyword k) (by simp)).map fun t? => by cases t? <;> rfl

theorem Follows.keyword (k : Keyword) : Follows R id (keyword k) (keyword k) :=
  (Follows.expect hR (· = .keyword k) (by simp) _).map fun _ => rfl

theorem Follows.symbol {s : Symbol} (hs : s ≠ .semicolon) : Follows R id (symbol s) (symbol s) :=
  (Follows.expect hR (· = .symbol s) (by simpa using Ne.symm hs) _).map fun _ => rfl

theorem Follows.identifier (expected : Expectation) :
    Follows R (Token.relocate f) (identifier expected) (identifier expected) :=
  Follows.expect hR isIdentifier rfl expected

end Reader

open Reader

variable {f} {R : List Token → List Token → Prop} (hR : TokenMatching f R)

/-! ### Repetitions -/

namespace Phrase

include hR in
theorem readCommaSeparated_follows {α : Type} {act : α → α} {item : Phrase α}
    (hitem : Follows R act item.read item.read) :
    Follows R (List.map act) (readCommaSeparated item) (readCommaSeparated item) := by
  intro tokens other h
  fun_induction readCommaSeparated item tokens generalizing other with
  | case1 tokens e he =>
    obtain ⟨rest', he', hrest⟩ := hitem.of_error h he
    exact readCommaSeparated_of_error he' ▸ .failed e.expected hrest
  | case2 tokens a ha =>
    obtain ⟨rest', ha', hrest⟩ := hitem.of_ok h ha
    obtain rfl := hR.nil hrest
    exact readCommaSeparated_of_last ha' (by simp) ▸ .read [a] hrest
  | case3 tokens a t rest ha hcomma e he ih =>
    obtain ⟨after, ha', hafter⟩ := hitem.of_ok h ha
    obtain ⟨rest', rfl, hrest⟩ := hR.cons hafter
    have hmore := ih (hrest (by simp [hcomma]))
    rw [he] at hmore
    rw [readCommaSeparated_of_comma ha' hcomma]
    generalize readCommaSeparated item rest' = result at hmore
    cases hmore with
    | failed expected hrest => exact .failed expected hrest
  | case4 tokens a t rest ha hcomma items after hitems ih =>
    obtain ⟨next, ha', hnext⟩ := hitem.of_ok h ha
    obtain ⟨rest', rfl, hrest⟩ := hR.cons hnext
    have hmore := ih (hrest (by simp [hcomma]))
    rw [hitems] at hmore
    rw [readCommaSeparated_of_comma ha' hcomma]
    generalize readCommaSeparated item rest' = result at hmore
    cases hmore with
    | read _ hafter => exact .read (a :: items) hafter
  | case5 tokens a t rest ha hcomma =>
    obtain ⟨after, ha', hafter⟩ := hitem.of_ok h ha
    have hlast : ∀ u ∈ after.head?, u.kind ≠ .symbol .comma := by
      rw [hR.head? hafter]
      simpa using hcomma
    exact readCommaSeparated_of_last ha' hlast ▸ .read [a] hafter

section Joined

variable {right? : Token.Kind → Option (Phrase Expression)}
  (hright : ∀ kind operand, right? kind = some operand →
    kind ≠ .symbol .semicolon ∧ Follows R (Expression.relocate f) operand.read operand.read)
include hR hright

theorem readJoined_follows (left : Expression) :
    Follows R (Expression.relocate f) (readJoined right? left) (readJoined right? (left.relocate f)) := by
  intro tokens other h
  fun_induction readJoined right? left tokens generalizing other with
  | case1 left =>
    obtain rfl := hR.nil h
    rw [readJoined_of_end (by simp)]
    exact .read left h
  | case2 left t rest ht =>
    have hend : ∀ u ∈ other.head?, right? u.kind = none := by
      rw [hR.head? h]
      simpa using ht
    rw [readJoined_of_end hend]
    exact .read left h
  | case3 left t rest operand ht e he =>
    obtain ⟨hkind, hoperand⟩ := hright t.kind operand ht
    obtain ⟨rest', rfl, hrest⟩ := hR.cons h
    obtain ⟨after, he', hafter⟩ := hoperand.of_error (hrest hkind) he
    have ht' : right? (t.relocate f).kind = some operand := ht
    exact readJoined_of_error ht' he' ▸ .failed e.expected hafter
  | case4 left t rest operand ht right after hread ih =>
    obtain ⟨hkind, hoperand⟩ := hright t.kind operand ht
    obtain ⟨rest', rfl, hrest⟩ := hR.cons h
    obtain ⟨after', hread', hafter⟩ := hoperand.of_ok (hrest hkind) hread
    have ht' : right? (t.relocate f).kind = some operand := ht
    rw [readJoined_of_operand ht' hread']
    exact ih hafter

theorem joined_follows {first : Phrase Expression}
    (hfirst : Follows R (Expression.relocate f) first.read first.read) :
    Follows R (Expression.relocate f) (first.joined right?).read (first.joined right?).read :=
  hfirst.bind (readJoined_follows hR hright)

end Joined

end Phrase

namespace Parsing

/-! ### Expressions -/

theorem relocate_underSigns (f : Location → Location) (signs : List Token) (e : Expression) :
    underSigns (signs.map (Token.relocate f)) (e.relocate f) = (underSigns signs e).relocate f := by
  cases signs with
  | nil => rfl
  | cons sign signs => simp [underSigns, Expression.relocate]

include hR

theorem readPrimary_follows {parenthesized : Option (Phrase Expression)}
    (hinner : ∀ inner ∈ parenthesized, Follows R (Expression.relocate f) inner.read inner.read) :
    Follows R (Expression.relocate f) (readPrimary parenthesized) (readPrimary parenthesized) := by
  intro tokens other h
  match tokens with
  | [] =>
    obtain rfl := hR.nil h
    exact .failed _ h
  | t :: rest =>
    obtain ⟨rest', rfl, hrest⟩ := hR.cons h
    simp only [readPrimary, Token.kind_relocate]
    by_cases hterm : isTerm t.kind = true
    · have hkind : t.kind ≠ .symbol .semicolon := by
        intro hkind
        simp [hkind, isTerm] at hterm
      simp only [hterm, if_true]
      exact .read (Expression.term t) (hrest hkind)
    · by_cases hparen : t.kind = .symbol .leftParen
      · simp only [hparen, if_true]
        cases parenthesized with
        | none => exact .failed _ h
        | some inner =>
          exact ((hinner inner rfl).bind fun e => (Follows.symbol hR (by decide)).bind fun _ =>
            Follows.pure (Expression.relocate f) e) (hrest (by simp [hparen]))
      · simp only [hterm, hparen, if_false, Bool.false_eq_true]
        exact .failed _ h

/-- Matched lists have the same prefix signs in front, and go on matched behind them. -/
theorem takeWhile_isPrefixSign {tokens other : List Token} (h : R tokens other) :
    other.takeWhile (isPrefixSign ·.kind) = (tokens.takeWhile (isPrefixSign ·.kind)).map (Token.relocate f) ∧
      R (tokens.dropWhile (isPrefixSign ·.kind)) (other.dropWhile (isPrefixSign ·.kind)) := by
  induction tokens generalizing other with
  | nil =>
    obtain rfl := hR.nil h
    exact ⟨rfl, h⟩
  | cons t rest ih =>
    obtain ⟨rest', rfl, hrest⟩ := hR.cons h
    by_cases hsign : isPrefixSign t.kind = true
    · have hkind : t.kind ≠ .symbol .semicolon := by
        intro hkind
        simp [hkind, isPrefixSign] at hsign
      simpa [hsign] using ih (hrest hkind)
    · simpa [hsign] using h

theorem readOperand_follows {parenthesized : Option (Phrase Expression)}
    (hinner : ∀ inner ∈ parenthesized, Follows R (Expression.relocate f) inner.read inner.read) :
    Follows R (Expression.relocate f) (readOperand parenthesized) (readOperand parenthesized) := by
  intro tokens other h
  obtain ⟨hsigns, hrest⟩ := takeWhile_isPrefixSign hR h
  show Alike R (Expression.relocate f) _ ((underSigns _ <$> readPrimary parenthesized) _)
  rw [hsigns]
  exact (readPrimary_follows hR hinner).map (relocate_underSigns f _) hrest

theorem climb_follows {operand : Phrase Expression}
    (hoperand : Follows R (Expression.relocate f) operand.read operand.read) (least : Nat) :
    Follows R (Expression.relocate f) (climb operand least).read (climb operand least).read := by
  apply climb_induction fun phrase => Follows R (Expression.relocate f) phrase.read phrase.read
  intro least ih
  refine Phrase.joined_follows hR (fun kind phrase hphrase => ⟨?_, ih kind phrase hphrase⟩) hoperand
  rintro rfl
  obtain ⟨precedence, hprecedence, -⟩ := rightSide?_eq_some hphrase
  simp [precedence?] at hprecedence

theorem expression_follows (nesting : Nat) :
    Follows R (Expression.relocate f) (expression nesting).read (expression nesting).read := by
  induction nesting with
  | zero => exact climb_follows hR (readOperand_follows hR (by simp)) _
  | succ nesting ih =>
    refine climb_follows hR (readOperand_follows hR ?_) _
    rintro _ ⟨⟩
    exact ih

/-! ### Parts of statements -/

theorem namedAs?_follows (expected : Expectation) :
    Follows R (Option.map (Token.relocate f)) (namedAs? expected) (namedAs? expected) :=
  (Follows.keyword? hR _).bind fun found =>
    .ite found ((Follows.identifier hR expected).map fun _ => rfl) (Follows.pure (Option.map (Token.relocate f)) none)

theorem readSelectItem_follows (nesting : Nat) :
    Follows R (SelectItem.relocate f) (readSelectItem nesting) (readSelectItem nesting) := by
  refine (Follows.take? hR (· = .symbol .asterisk) (by simp)).bind fun star => ?_
  cases star with
  | none =>
    exact (expression_follows hR nesting).bind fun e => (namedAs?_follows hR _).bind fun columnAlias =>
      Follows.pure (SelectItem.relocate f) (SelectItem.expression e columnAlias)
  | some star => exact Follows.pure (SelectItem.relocate f) (SelectItem.star star)

theorem condition?_follows (nesting : Nat) :
    Follows R (Option.map (Expression.relocate f)) (condition? nesting) (condition? nesting) :=
  (Follows.keyword? hR _).bind fun found =>
    .ite found ((expression_follows hR nesting).map fun _ => rfl)
      (Follows.pure (Option.map (Expression.relocate f)) none)

theorem descending_follows : Follows R id descending descending := by
  refine (Follows.keyword? hR _).bind fun found => ?_
  cases found
  · exact (Follows.keyword? hR _).bind fun _ => Follows.pure id false
  · exact Follows.pure id true

theorem readSortKey_follows (nesting : Nat) :
    Follows R (SortKey.relocate f) (readSortKey nesting) (readSortKey nesting) :=
  (expression_follows hR nesting).bind fun e => (descending_follows hR).bind fun d =>
    Follows.pure (SortKey.relocate f) ⟨e, d⟩

theorem readRow_follows (nesting : Nat) :
    Follows R (List.map (Expression.relocate f)) (readRow nesting) (readRow nesting) :=
  (Follows.symbol hR (by decide)).bind fun _ =>
    (Phrase.readCommaSeparated_follows hR (expression_follows hR nesting)).bind fun row =>
      (Follows.symbol hR (by decide)).bind fun _ => Follows.pure (List.map (Expression.relocate f)) row

theorem readAssignment_follows (nesting : Nat) :
    Follows R (Assignment.relocate f) (readAssignment nesting) (readAssignment nesting) :=
  (Follows.identifier hR _).bind fun column => (Follows.symbol hR (by decide)).bind fun _ =>
    (expression_follows hR nesting).bind fun value => Follows.pure (Assignment.relocate f) ⟨column, value⟩

theorem readNullClause_follows : Follows R id readNullClause readNullClause := by
  refine (Follows.keyword? hR _).bind fun found => ?_
  cases found
  · refine (Follows.keyword? hR _).bind fun found => ?_
    cases found
    · exact Follows.pure id NullClause.unspecified
    · exact Follows.pure id NullClause.null
  · exact (Follows.keyword hR _).bind fun _ => Follows.pure id NullClause.notNull

theorem readColumnDefinition_follows :
    Follows R (ColumnDefinition.relocate f) readColumnDefinition readColumnDefinition :=
  (Follows.identifier hR _).bind fun name => (Follows.expect hR isTypeWord rfl _).bind fun type =>
    (readNullClause_follows hR).bind fun clause => Follows.pure (ColumnDefinition.relocate f) ⟨name, type, clause⟩

theorem order?_follows (nesting : Nat) :
    Follows R (List.map (SortKey.relocate f)) (order? nesting) (order? nesting) :=
  (Follows.keyword? hR _).bind fun found =>
    .ite found
      ((Follows.keyword hR _).bind fun _ => Phrase.readCommaSeparated_follows hR (readSortKey_follows hR nesting))
      (Follows.pure (List.map (SortKey.relocate f)) [])

/-! ### Statements -/

theorem readSelect_follows (nesting : Nat) :
    Follows R (Select.relocate f) (readSelect nesting) (readSelect nesting) :=
  (Phrase.readCommaSeparated_follows hR (readSelectItem_follows hR nesting)).bind fun items =>
    (Follows.keyword hR _).bind fun _ => (Follows.identifier hR _).bind fun table =>
      (namedAs?_follows hR _).bind fun tableAlias => (condition?_follows hR nesting).bind fun condition =>
        (order?_follows hR nesting).bind fun order =>
          Follows.pure (Select.relocate f) ⟨items, table, tableAlias, condition, order⟩

theorem readInsert_follows (nesting : Nat) :
    Follows R (Insert.relocate f) (readInsert nesting) (readInsert nesting) :=
  (Follows.keyword hR _).bind fun _ => (Follows.identifier hR _).bind fun table =>
    (Follows.keyword hR _).bind fun _ =>
      (Phrase.readCommaSeparated_follows hR (readRow_follows hR nesting)).bind fun rows =>
        Follows.pure (Insert.relocate f) ⟨table, rows⟩

theorem readUpdate_follows (nesting : Nat) :
    Follows R (Update.relocate f) (readUpdate nesting) (readUpdate nesting) :=
  (Follows.identifier hR _).bind fun table => (Follows.keyword hR _).bind fun _ =>
    (Phrase.readCommaSeparated_follows hR (readAssignment_follows hR nesting)).bind fun assignments =>
      (condition?_follows hR nesting).bind fun condition =>
        Follows.pure (Update.relocate f) ⟨table, assignments, condition⟩

theorem readDelete_follows (nesting : Nat) :
    Follows R (Delete.relocate f) (readDelete nesting) (readDelete nesting) :=
  (Follows.keyword hR _).bind fun _ => (Follows.identifier hR _).bind fun table =>
    (condition?_follows hR nesting).bind fun condition => Follows.pure (Delete.relocate f) ⟨table, condition⟩

theorem readCreateTable_follows : Follows R (CreateTable.relocate f) readCreateTable readCreateTable :=
  (Follows.keyword hR _).bind fun _ => (Follows.identifier hR _).bind fun name =>
    (Follows.symbol hR (by decide)).bind fun _ =>
      (Phrase.readCommaSeparated_follows hR (readColumnDefinition_follows hR)).bind fun columns =>
        (Follows.symbol hR (by decide)).bind fun _ => Follows.pure (CreateTable.relocate f) ⟨name, columns⟩

theorem readDropTable_follows : Follows R (DropTable.relocate f) readDropTable readDropTable :=
  (Follows.keyword hR _).bind fun _ => (Follows.identifier hR _).bind fun name =>
    Follows.pure (DropTable.relocate f) ⟨name⟩

theorem bodyOf?_follows {nesting : Nat} {kind : Token.Kind} {body : Reader Statement}
    (hbody : bodyOf? nesting kind = some body) : Follows R (Statement.relocate f) body body := by
  unfold bodyOf? at hbody
  split at hbody
  case h_7 => simp at hbody
  all_goals obtain rfl := Option.some.inj hbody
  case h_1 => exact (readSelect_follows hR nesting).map fun _ => rfl
  case h_2 => exact (readInsert_follows hR nesting).map fun _ => rfl
  case h_3 => exact (readUpdate_follows hR nesting).map fun _ => rfl
  case h_4 => exact (readDelete_follows hR nesting).map fun _ => rfl
  case h_5 => exact (readCreateTable_follows hR).map fun _ => rfl
  case h_6 => exact (readDropTable_follows hR).map fun _ => rfl

theorem statement_follows (nesting : Nat) :
    Follows R (Statement.relocate f) (statement nesting).read (statement nesting).read := by
  intro tokens other h
  match tokens with
  | [] =>
    obtain rfl := hR.nil h
    exact .failed _ h
  | t :: rest =>
    obtain ⟨rest', rfl, hrest⟩ := hR.cons h
    rw [statement_read_cons, statement_read_cons, Token.kind_relocate]
    cases hbody : bodyOf? nesting t.kind with
    | none => exact .failed _ h
    | some body =>
      have hkind : t.kind ≠ .symbol .semicolon := by
        intro hkind
        simp [hkind, bodyOf?] at hbody
      exact bodyOf?_follows hR hbody (hrest hkind)

omit hR

/-! ### Moved batches -/

theorem matching_map (f : Location → Location) :
    TokenMatching f fun tokens other => other = tokens.map (Token.relocate f) where
  nil h := h
  cons h := ⟨_, h, fun _ => rfl⟩

/-- Moved tokens stand for the same statements, moved, or they are refused in the same place. -/
theorem readBatch_map (f : Location → Location) (nesting : Nat) (tokens : List Token) :
    (readBatch nesting (tokens.map (Token.relocate f))).statements =
        (readBatch nesting tokens).statements.map (Statement.relocate f) ∧
      (readBatch nesting (tokens.map (Token.relocate f))).failure =
        (readBatch nesting tokens).failure.map (Failure.relocate f) := by
  have hfollows := statement_follows (matching_map f) nesting
  fun_induction readBatch nesting tokens with
  | case1 => rw [List.map_nil, readBatch]; exact ⟨rfl, rfl⟩
  | case2 t tokens e he =>
    obtain ⟨rest', he', rfl⟩ := hfollows.of_error rfl he
    rw [List.map_cons] at he' ⊢
    rw [readBatch_of_error he']
    exact ⟨rfl, rfl⟩
  | case3 t tokens s hs =>
    obtain ⟨rest', hs', rfl⟩ := hfollows.of_ok rfl hs
    rw [List.map_cons] at hs' ⊢
    rw [readBatch_of_last hs']
    exact ⟨rfl, rfl⟩
  | case4 t tokens s u rest hs hu batch ih =>
    obtain ⟨rest', hs', rfl⟩ := hfollows.of_ok rfl hs
    have hbatch := readBatch_of_semicolon (u := u.relocate f) hs' hu
    rw [List.map_cons, hbatch]
    exact ⟨congrArg (s.relocate f :: ·) ih.1, ih.2⟩
  | case5 t tokens s u rest hs hu =>
    obtain ⟨rest', hs', rfl⟩ := hfollows.of_ok rfl hs
    have hbatch := readBatch_of_other (u := u.relocate f) hs' hu
    rw [List.map_cons, hbatch]
    exact ⟨rfl, rfl⟩

end Parsing

theorem parseTokens_eq_ok {tokens : List Token} {statements : List Statement} :
    parseTokens tokens = .ok statements ↔
      (Parsing.readBatch Parsing.nestingLimit tokens).statements = statements ∧
        (Parsing.readBatch Parsing.nestingLimit tokens).failure = none := by
  rw [parseTokens]
  obtain ⟨found, rest, failure⟩ := Parsing.readBatch Parsing.nestingLimit tokens
  cases failure <;> simp

theorem parseTokens_eq_error {tokens : List Token} {e : ParseError} :
    parseTokens tokens = .error e ↔
      ∃ f, (Parsing.readBatch Parsing.nestingLimit tokens).failure = some f ∧ e = f.toParseError tokens := by
  rw [parseTokens]
  obtain ⟨found, rest, failure⟩ := Parsing.readBatch Parsing.nestingLimit tokens
  cases failure <;> simp [eq_comm]

/-- The error with its location moved. -/
def ParseError.relocate (f : Location → Location) (e : ParseError) : ParseError :=
  ⟨f e.location, e.expected⟩

/-- The error points at a token, for there is one. -/
theorem Failure.toParseError_relocate (f : Location → Location) (failure : Failure) {tokens : List Token}
    (hne : tokens ≠ []) :
    (failure.relocate f).toParseError (tokens.map (Token.relocate f)) = (failure.toParseError tokens).relocate f := by
  have hlast : tokens.getLast? = some (tokens.getLast hne) := List.getLast?_eq_some_getLast hne
  simp only [toParseError, Failure.relocate, ParseError.relocate, List.head?_map, List.getLast?_map, hlast]
  cases failure.rest.head? <;> rfl

/-- Moved tokens stand for the same statements, moved, or they are refused in the same place. -/
theorem parseTokens_map (f : Location → Location) (tokens : List Token) :
    parseTokens (tokens.map (Token.relocate f)) =
      match parseTokens tokens with
      | .error e => .error (e.relocate f)
      | .ok statements => .ok (statements.map (Statement.relocate f)) := by
  obtain ⟨hstatements, hfailure⟩ := Parsing.readBatch_map f Parsing.nestingLimit tokens
  cases hparse : parseTokens tokens with
  | ok statements =>
    obtain ⟨rfl, hnone⟩ := parseTokens_eq_ok.1 hparse
    exact parseTokens_eq_ok.2 ⟨hstatements, by rw [hfailure, hnone, Option.map_none]⟩
  | error e =>
    obtain ⟨failure, hsome, rfl⟩ := parseTokens_eq_error.1 hparse
    have hne : tokens ≠ [] := by
      rintro rfl
      simp [Parsing.readBatch] at hsome
    refine parseTokens_eq_error.2 ⟨failure.relocate f, by rw [hfailure, hsome, Option.map_some], ?_⟩
    exact (failure.toParseError_relocate f hne).symm

end SqlShell
