import SqlShell.Proofs.Parsing.Climbing
/-!
# The grammar of expressions

The grammar that expression readers are for, as derivations: five levels of binary operators that group to the left,
prefix signs that stand under all of them, and primaries. A derivation keeps count of parentheses: it says how many may
be open at once. Nothing here is about reading; `Recognizes` then says of a reader that it takes exactly what one of
the nonterminals derives, as far as the tokens go on with it. An expression reader does
(`expression_recognizes`), and this is proved from the inside out, one nonterminal after another.
-/

namespace SqlShell

namespace Parsing

/-! ### The rules -/

inductive IsSign : Token.Kind → Prop
  | minus : IsSign (.symbol .minus)
  | plus : IsSign (.symbol .plus)
  | not : IsSign (.keyword .not)

inductive IsLeaf : Token.Kind → Prop
  | identifier (name : String) : IsLeaf (.identifier name)
  | string (contents : String) : IsLeaf (.string contents)
  | numeral (text : String) : IsLeaf (.numeral text)
  | boolean (value : Bool) : IsLeaf (.boolean value)
  | null : IsLeaf (.keyword .null)

/-- What the rules of the grammar are about. -/
inductive Nonterminal where
  /-- Parts with operators of the level between them. -/
  | chain (level : Level)
  /-- A primary under prefix signs. -/
  | operand
  | primary

/-- What the operators of a level join. -/
def Level.part : Level → Nonterminal
  | .disjunction => .chain .conjunction
  | .conjunction => .chain .comparison
  | .comparison => .chain .sum
  | .sum => .chain .product
  | .product => .operand

/-- The tokens derive the expression, with at most `nesting` parentheses open at once. -/
inductive Derives : (nesting : Nat) → Nonterminal → List Token → Expression → Prop
  | leaf {nesting : Nat} {t : Token} (ht : IsLeaf t.kind) : Derives nesting .primary [t] (.term t)
  /-- Parentheses leave no node. -/
  | parentheses {nesting : Nat} {opening closing : Token} {tokens : List Token} {e : Expression}
      (hopening : opening.kind = .symbol .leftParen) (hclosing : closing.kind = .symbol .rightParen)
      (h : Derives nesting (.chain .disjunction) tokens e) :
      Derives (nesting + 1) .primary (opening :: (tokens ++ [closing])) e
  | unsigned {nesting : Nat} {tokens : List Token} {e : Expression} (h : Derives nesting .primary tokens e) :
      Derives nesting .operand tokens e
  /-- All signs together are one node, with the sign next to the primary in front. -/
  | signed {nesting : Nat} {signs tokens : List Token} {e : Expression} (hne : signs ≠ [])
      (hsigns : ∀ sign ∈ signs, IsSign sign.kind) (h : Derives nesting .primary tokens e) :
      Derives nesting .operand (signs ++ tokens) (.unary signs.reverse e)
  | single {nesting : Nat} {level : Level} {tokens : List Token} {e : Expression}
      (h : Derives nesting level.part tokens e) : Derives nesting (.chain level) tokens e
  /-- The chain goes on to the left of its last operator. -/
  | binary {nesting : Nat} {level : Level} {operator : Token} {before behind : List Token} {left right : Expression}
      (hoperator : level? operator.kind = some level) (hleft : Derives nesting (.chain level) before left)
      (hright : Derives nesting level.part behind right) :
      Derives nesting (.chain level) (before ++ operator :: behind) (.binary operator left right)

/-! ### Where a nonterminal ends -/

def Nonterminal.rank : Nonterminal → Nat
  | .chain level => level.rank
  | .operand => 5
  | .primary => 6

theorem Level.rank_part (level : Level) : level.part.rank = level.rank + 1 := by
  cases level <;> rfl

theorem Nonterminal.rank_le (x : Nonterminal) : x.rank ≤ Nonterminal.primary.rank := by
  cases x with
  | chain level => exact Nat.le_of_lt (Nat.lt_of_lt_of_le level.rank_lt (by decide))
  | operand => decide
  | primary => exact Nat.le_refl _

theorem Nonterminal.rank_injective {x y : Nonterminal} (h : x.rank = y.rank) : x = y := by
  have hlt (level : Level) : (Nonterminal.chain level).rank < 5 := level.rank_lt
  cases x with
  | chain level =>
    cases y with
    | chain other => rw [Level.rank_injective h]
    | operand => exact absurd (h ▸ hlt level) (by decide)
    | primary => exact absurd (h ▸ hlt level) (by decide)
  | operand =>
    cases y with
    | chain other => exact absurd (h ▸ hlt other) (by decide)
    | operand => rfl
    | primary => exact absurd h (by decide)
  | primary =>
    cases y with
    | chain other => exact absurd (h ▸ hlt other) (by decide)
    | operand => exact absurd h (by decide)
    | primary => rfl

/-- What a nonterminal derives, a looser one does. -/
theorem Derives.loosen {nesting : Nat} {x y : Nonterminal} {tokens : List Token} {e : Expression}
    (h : Derives nesting x tokens e) (hrank : y.rank ≤ x.rank) : Derives nesting y tokens e := by
  -- one rule for each step between the two
  generalize hsteps : x.rank - y.rank = steps
  induction steps generalizing y with
  | zero =>
    obtain rfl : x = y := Nonterminal.rank_injective (by omega)
    exact h
  | succ steps ih =>
    cases y with
    | chain level =>
      have hpart : level.part.rank = (Nonterminal.chain level).rank + 1 := level.rank_part
      apply Derives.single
      apply ih <;> omega
    | operand =>
      have hprimary : Nonterminal.primary.rank = Nonterminal.operand.rank + 1 := rfl
      apply Derives.unsigned
      apply ih <;> omega
    | primary =>
      have hle := x.rank_le
      omega

/-- Every expression starts with a name or a literal, a parenthesis or a sign. -/
theorem Derives.eq_cons {nesting : Nat} {x : Nonterminal} {tokens : List Token} {e : Expression}
    (h : Derives nesting x tokens e) :
    ∃ t tail, tokens = t :: tail ∧ (IsLeaf t.kind ∨ t.kind = .symbol .leftParen ∨ IsSign t.kind) := by
  induction h with
  | leaf ht => exact ⟨_, [], rfl, .inl ht⟩
  | parentheses hopening => exact ⟨_, _, rfl, .inr (.inl hopening)⟩
  | unsigned _ ih => exact ih
  | signed hne hsigns =>
    obtain ⟨sign, signs, rfl⟩ := List.exists_cons_of_ne_nil hne
    exact ⟨sign, _, rfl, .inr (.inr (hsigns sign List.mem_cons_self))⟩
  | single _ ih => exact ih
  | binary _ _ _ ih =>
    obtain ⟨t, tail, rfl, ht⟩ := ih
    exact ⟨t, _, rfl, ht⟩

/-- A token of the kind behind the nonterminal would go on with it: it is an operator of its level or of a tighter
one. -/
def Nonterminal.GoesOn (x : Nonterminal) (kind : Token.Kind) : Prop :=
  ∃ level, level? kind = some level ∧ x.rank ≤ level.rank

theorem not_goesOn_primary (kind : Token.Kind) : ¬Nonterminal.primary.GoesOn kind := by
  rintro ⟨level, -, hrank⟩
  exact absurd (Nat.lt_of_le_of_lt hrank level.rank_lt) (by decide)

theorem not_goesOn_operand (kind : Token.Kind) : ¬Nonterminal.operand.GoesOn kind := by
  rintro ⟨level, -, hrank⟩
  exact absurd (Nat.lt_of_le_of_lt hrank level.rank_lt) (by decide)

theorem goesOn_chain {level : Level} {kind : Token.Kind} :
    (Nonterminal.chain level).GoesOn kind ↔ level.part.GoesOn kind ∨ level? kind = some level := by
  constructor
  · rintro ⟨other, hother, hrank⟩
    rcases Nat.eq_or_lt_of_le hrank with heq | hlt
    · exact .inr (Level.rank_injective heq ▸ hother)
    · exact .inl ⟨other, hother, by rw [level.rank_part]; exact hlt⟩
  · rintro (⟨other, hother, hrank⟩ | hlevel)
    · rw [level.rank_part] at hrank
      exact ⟨other, hother, Nat.le_of_succ_le hrank⟩
    · exact ⟨level, hlevel, Nat.le_refl _⟩

/-- An operator does not go on with what it joins. -/
theorem not_goesOn_part {level : Level} {kind : Token.Kind} (h : level? kind = some level) :
    ¬level.part.GoesOn kind := by
  rintro ⟨other, hother, hrank⟩
  obtain rfl := Option.some.inj (h.symm.trans hother)
  rw [level.rank_part] at hrank
  exact absurd hrank (Nat.not_succ_le_self _)

theorem goesOn_disjunction {kind : Token.Kind} :
    (Nonterminal.chain .disjunction).GoesOn kind ↔ ∃ level, level? kind = some level :=
  ⟨fun ⟨level, hlevel, _⟩ => ⟨level, hlevel⟩, fun ⟨level, hlevel⟩ => ⟨level, hlevel, Nat.zero_le _⟩⟩

/-! ### Kinds of tokens -/

theorem isPrefixSign_iff {kind : Token.Kind} : isPrefixSign kind = true ↔ IsSign kind := by
  constructor
  · intro h
    unfold isPrefixSign at h
    split at h
    · exact .not
    · exact .minus
    · exact .plus
    · exact absurd h Bool.false_ne_true
  · rintro ⟨⟩ <;> rfl

theorem isTerm_iff {kind : Token.Kind} : isTerm kind = true ↔ IsLeaf kind := by
  constructor
  · intro h
    unfold isTerm at h
    split at h
    · exact .identifier _
    · exact .string _
    · exact .numeral _
    · exact .boolean _
    · exact .null
    · exact absurd h Bool.false_ne_true
  · rintro ⟨⟩ <;> rfl

instance (kind : Token.Kind) : Decidable (IsSign kind) :=
  decidable_of_iff _ isPrefixSign_iff

instance (kind : Token.Kind) : Decidable (IsLeaf kind) :=
  decidable_of_iff _ isTerm_iff

/-! ### Readers -/

/-- The reader takes what the nonterminal derives, if no token behind that would go on with it. -/
def Recognizes (p : Reader Expression) (nesting : Nat) (x : Nonterminal) : Prop :=
  ∀ tokens e rest, p tokens = .ok (e, rest) ↔
    ∃ taken, tokens = taken ++ rest ∧ Derives nesting x taken e ∧ ∀ t ∈ rest.head?, ¬x.GoesOn t.kind

variable {nesting : Nat} {level : Level} {part : Phrase Expression} {tokens rest : List Token} {e : Expression}

/-! ### Chains -/

theorem partBehind?_eq_some {kind : Token.Kind} {operand : Phrase Expression}
    (h : partBehind? level part kind = some operand) : level? kind = some level ∧ operand = part := by
  rw [partBehind?] at h
  split at h
  · next hlevel => exact ⟨hlevel, (Option.some.inj h).symm⟩
  · cases h

/-- In front of a chain that is known, the reader of chains is at its end, with the tree of the chain on the left. -/
theorem leftAssociated_of_derives (hpart : Recognizes part.read nesting level.part)
    (h : Derives nesting (.chain level) tokens e) (hrest : ∀ t ∈ rest.head?, ¬level.part.GoesOn t.kind) :
    (leftAssociated level part).read (tokens ++ rest) = Phrase.readJoined (partBehind? level part) e rest := by
  generalize hx : Nonterminal.chain level = x at h
  induction h generalizing rest with
  | single h =>
    obtain rfl := Nonterminal.chain.inj hx
    have hread := (hpart _ _ _).2 ⟨_, rfl, h, hrest⟩
    exact Reader.bind_of_ok hread
  | @binary nesting level' operator before behind left right hoperator hleft hright ih =>
    obtain rfl := Nonterminal.chain.inj hx
    have hright' := (hpart _ _ _).2 ⟨behind, rfl, hright, hrest⟩
    have hend : ∀ t ∈ (operator :: (behind ++ rest)).head?, ¬level.part.GoesOn t.kind := by
      simpa using not_goesOn_part hoperator
    have hfront := ih hpart hend rfl
    rw [List.append_assoc, List.cons_append, hfront,
      Phrase.readJoined_of_operand (partBehind?_of_level hoperator part) hright']
  | _ => cases hx

/-- What the reader of chains adds to a chain makes a longer one. -/
theorem derives_of_readJoined (hpart : Recognizes part.read nesting level.part) {left : Expression}
    {before : List Token} (hleft : Derives nesting (.chain level) before left)
    (htokens : ∀ t ∈ tokens.head?, ¬level.part.GoesOn t.kind)
    (h : Phrase.readJoined (partBehind? level part) left tokens = .ok (e, rest)) :
    ∃ taken, tokens = taken ++ rest ∧ Derives nesting (.chain level) (before ++ taken) e ∧
      ∀ t ∈ rest.head?, ¬(Nonterminal.chain level).GoesOn t.kind := by
  fun_induction Phrase.readJoined (partBehind? level part) left tokens generalizing before with
  | case1 left =>
    obtain ⟨rfl, rfl⟩ := Prod.mk.inj (Except.ok.inj h)
    exact ⟨[], rfl, by rwa [List.append_nil], by simp⟩
  | case2 left t tail ht =>
    obtain ⟨rfl, rfl⟩ := Prod.mk.inj (Except.ok.inj h)
    refine ⟨[], rfl, by rwa [List.append_nil], ?_⟩
    intro u hu hgoes
    obtain rfl := Option.some.inj hu
    rcases goesOn_chain.1 hgoes with hgoes | hlevel
    · exact htokens _ rfl hgoes
    · rw [partBehind?_of_level hlevel] at ht
      cases ht
  | case3 => simp at h
  | case4 left t tail operand ht right after hright ih =>
    obtain ⟨hoperator, rfl⟩ := partBehind?_eq_some ht
    obtain ⟨behind, rfl, hbehind, hafter⟩ := (hpart _ _ _).1 hright
    obtain ⟨taken, rfl, htaken, hrest⟩ := ih (.binary hoperator hleft hbehind) hafter h
    exact ⟨t :: (behind ++ taken), by simp, by simpa using htaken, hrest⟩

theorem leftAssociated_recognizes (level : Level) (hpart : Recognizes part.read nesting level.part) :
    Recognizes (leftAssociated level part).read nesting (.chain level) := by
  intro tokens e rest
  constructor
  · intro h
    obtain ⟨first, middle, hfirst, hchain⟩ := Reader.bind_eq_ok.1 h
    obtain ⟨taken, rfl, htaken, hmiddle⟩ := (hpart _ _ _).1 hfirst
    obtain ⟨more, rfl, hmore, hrest⟩ := derives_of_readJoined hpart (.single htaken) hmiddle hchain
    exact ⟨taken ++ more, by simp, hmore, hrest⟩
  · rintro ⟨taken, rfl, htaken, hrest⟩
    have hend : ∀ t ∈ rest.head?, partBehind? level part t.kind = none := by
      intro t ht
      exact if_neg fun hlevel => hrest t ht (goesOn_chain.2 (.inr hlevel))
    have hpartEnd : ∀ t ∈ rest.head?, ¬level.part.GoesOn t.kind :=
      fun t ht hgoes => hrest t ht (goesOn_chain.2 (.inl hgoes))
    rw [leftAssociated_of_derives hpart htaken hpartEnd, Phrase.readJoined_of_end hend]

theorem disjunction_recognizes (hpart : Recognizes part.read nesting .operand) :
    Recognizes (disjunction part).read nesting (.chain .disjunction) :=
  have hproduct := leftAssociated_recognizes .product hpart
  have hsum := leftAssociated_recognizes .sum hproduct
  have hcomparison := leftAssociated_recognizes .comparison hsum
  have hconjunction := leftAssociated_recognizes .conjunction hcomparison
  leftAssociated_recognizes .disjunction hconjunction

/-- Climbing takes what the levels take. -/
theorem climb_recognizes (hoperand : Recognizes part.read nesting .operand) :
    Recognizes (climb part lowestPrecedence).read nesting (.chain .disjunction) := by
  rw [climb_eq_disjunction]
  exact disjunction_recognizes hoperand

/-! ### Operands and primaries -/

/-- The reader of what stands in one more pair of parentheses. -/
def inner? : (nesting : Nat) → Option (Phrase Expression)
  | 0 => none
  | nesting + 1 => some (expression nesting)

theorem Derives.primary_eq_cons (h : Derives nesting .primary tokens e) :
    ∃ t tail, tokens = t :: tail ∧ isPrefixSign t.kind = false := by
  cases h with
  | leaf ht =>
    refine ⟨_, [], rfl, ?_⟩
    generalize Token.kind _ = kind at ht
    cases ht <;> rfl
  | parentheses hopening => exact ⟨_, _, rfl, by rw [hopening]; rfl⟩

/-- What stands behind an opening parenthesis. -/
def readParenthesized (inner : Phrase Expression) : Reader Expression := do
  let e ← inner.read
  Reader.symbol .rightParen
  return e

theorem readParenthesized_eq_ok {inner : Phrase Expression} :
    readParenthesized inner tokens = .ok (e, rest) ↔
      ∃ closing, closing.kind = .symbol .rightParen ∧ inner.read tokens = .ok (e, closing :: rest) := by
  constructor
  · intro h
    obtain ⟨e, middle, hinner, hend⟩ := Reader.bind_eq_ok.1 h
    obtain ⟨_, after, hclosing, hpure⟩ := Reader.bind_eq_ok.1 hend
    obtain ⟨rfl, rfl⟩ := Reader.pure_eq_ok.1 hpure
    obtain ⟨closing, hclosing, -⟩ := Reader.map_eq_ok.1 hclosing
    obtain ⟨hkind, rfl⟩ := Reader.expect_eq_ok.1 hclosing
    exact ⟨closing, of_decide_eq_true hkind, hinner⟩
  · rintro ⟨closing, hkind, hinner⟩
    have hclosing : Reader.symbol .rightParen (closing :: rest) = .ok ((), rest) :=
      Reader.map_eq_ok.2 ⟨closing, Reader.expect_eq_ok.2 ⟨decide_eq_true hkind, rfl⟩, rfl⟩
    exact Reader.bind_eq_ok.2 ⟨e, _, hinner, Reader.bind_eq_ok.2 ⟨(), rest, hclosing, rfl⟩⟩

section

variable {parenthesized : Option (Phrase Expression)} {t : Token}

theorem readPrimary_of_term (ht : isTerm t.kind = true) (rest : List Token) :
    readPrimary parenthesized (t :: rest) = (pure (.term t) : Reader Expression) rest :=
  if_pos ht

theorem readPrimary_of_parenthesis {inner : Phrase Expression} (ht : t.kind = .symbol .leftParen) (rest : List Token) :
    readPrimary (some inner) (t :: rest) = readParenthesized inner rest := by
  simp only [readPrimary, ht, isTerm, if_true, Bool.false_eq_true, if_false]
  rfl

/-- What else there is cannot start a primary, and the rest plays no part in that. -/
theorem readPrimary_of_other (ht : ¬isTerm t.kind = true) (hnone : t.kind = .symbol .leftParen → parenthesized = none) :
    ∃ expected, ∀ rest, readPrimary parenthesized (t :: rest) = .error ⟨expected, t :: rest⟩ := by
  by_cases hparen : t.kind = .symbol .leftParen
  · obtain rfl := hnone hparen
    exact ⟨_, fun rest => (if_neg ht).trans (if_pos hparen)⟩
  · exact ⟨_, fun rest => (if_neg ht).trans (if_neg hparen)⟩

/-- The signs end in front of what is no sign. -/
theorem readOperand_of_signs {signs : List Token} (hsigns : ∀ sign ∈ signs, isPrefixSign sign.kind = true)
    (hrest : ∀ t ∈ rest.head?, isPrefixSign t.kind = false) :
    readOperand parenthesized (signs ++ rest) = (underSigns signs <$> readPrimary parenthesized) rest := by
  have htake : rest.takeWhile (isPrefixSign ·.kind) = [] := by
    cases rest with
    | nil => rfl
    | cons t rest => simp [hrest t rfl]
  have hdrop : rest.dropWhile (isPrefixSign ·.kind) = rest := by
    cases rest with
    | nil => rfl
    | cons t rest => simp [hrest t rfl]
  rw [readOperand, List.takeWhile_append_of_pos hsigns, List.dropWhile_append_of_pos hsigns, htake, hdrop,
    List.append_nil]

theorem readOperand_of_derives {signs : List Token} (hsigns : ∀ sign ∈ signs, IsSign sign.kind)
    (h : Derives nesting .primary tokens e) :
    readOperand parenthesized (signs ++ (tokens ++ rest)) =
      (underSigns signs <$> readPrimary parenthesized) (tokens ++ rest) := by
  obtain ⟨t, tail, rfl, ht⟩ := h.primary_eq_cons
  refine readOperand_of_signs (fun sign hsign => isPrefixSign_iff.2 (hsigns sign hsign)) ?_
  rintro _ ⟨⟩
  exact ht

end

theorem readPrimary_recognizes
    (hinner : ∀ inside, nesting = inside + 1 → Recognizes (expression inside).read inside (.chain .disjunction)) :
    Recognizes (readPrimary (inner? nesting)) nesting .primary := by
  intro tokens e rest
  constructor
  · intro h
    suffices htaken : ∃ taken, tokens = taken ++ rest ∧ Derives nesting .primary taken e by
      obtain ⟨taken, htokens, hderives⟩ := htaken
      exact ⟨taken, htokens, hderives, fun t _ => not_goesOn_primary t.kind⟩
    cases tokens with
    | nil => simp [readPrimary] at h
    | cons t tail =>
      by_cases hterm : isTerm t.kind = true
      · rw [readPrimary_of_term hterm] at h
        obtain ⟨rfl, rfl⟩ := Reader.pure_eq_ok.1 h
        exact ⟨[t], rfl, .leaf (isTerm_iff.1 hterm)⟩
      · by_cases hopening : t.kind = .symbol .leftParen ∧ nesting ≠ 0
        · obtain ⟨inside, rfl⟩ := Nat.exists_eq_succ_of_ne_zero hopening.2
          rw [inner?, readPrimary_of_parenthesis hopening.1] at h
          obtain ⟨closing, hclosing, hread⟩ := readParenthesized_eq_ok.1 h
          obtain ⟨taken, rfl, htaken, -⟩ := (hinner inside rfl _ _ _).1 hread
          exact ⟨t :: (taken ++ [closing]), by simp, .parentheses hopening.1 hclosing htaken⟩
        · have hnone (hparen : t.kind = .symbol .leftParen) : inner? nesting = none := by
            rw [Decidable.not_not.1 fun hne => hopening ⟨hparen, hne⟩, inner?]
          obtain ⟨expected, herror⟩ := readPrimary_of_other hterm hnone
          simp [herror] at h
  · rintro ⟨taken, rfl, htaken, -⟩
    cases htaken with
    | leaf ht => exact if_pos (isTerm_iff.2 ht)
    | @parentheses inside opening closing taken _ hopening hclosing htaken =>
      have hend : ∀ t ∈ (closing :: rest).head?, ¬(Nonterminal.chain .disjunction).GoesOn t.kind := by
        intro t ht hgoes
        obtain rfl := Option.some.inj ht
        obtain ⟨level, hlevel⟩ := goesOn_disjunction.1 hgoes
        rw [hclosing] at hlevel
        exact absurd hlevel (by simp [level?])
      have hread := (hinner inside rfl _ _ _).2 ⟨taken, rfl, htaken, hend⟩
      have hshape : (opening :: (taken ++ [closing])) ++ rest = opening :: (taken ++ closing :: rest) := by simp
      rw [hshape, inner?, readPrimary_of_parenthesis hopening]
      exact readParenthesized_eq_ok.2 ⟨closing, hclosing, hread⟩

theorem readOperand_recognizes {parenthesized : Option (Phrase Expression)}
    (hprimary : Recognizes (readPrimary parenthesized) nesting .primary) :
    Recognizes (readOperand parenthesized) nesting .operand := by
  intro tokens e rest
  constructor
  · intro h
    obtain ⟨found, hfound, hsigns⟩ := Reader.map_eq_ok.1 h
    obtain ⟨taken, htaken, hderives, -⟩ := (hprimary _ _ _).1 hfound
    refine ⟨tokens.takeWhile (isPrefixSign ·.kind) ++ taken, ?_, ?_, fun t _ => not_goesOn_operand t.kind⟩
    · rw [List.append_assoc, ← htaken, List.takeWhile_append_dropWhile]
    · rw [underSigns] at hsigns
      split at hsigns
      · next hnone =>
        rw [List.isEmpty_iff.1 hnone, ← hsigns]
        exact .unsigned hderives
      · next hsome =>
        rw [← hsigns]
        refine .signed (by simpa using hsome) (fun sign hsign => isPrefixSign_iff.1 ?_) hderives
        exact List.all_eq_true.1 List.all_takeWhile sign hsign
  · rintro ⟨taken, rfl, htaken, -⟩
    have hend : ∀ t ∈ rest.head?, ¬Nonterminal.primary.GoesOn t.kind := fun t _ => not_goesOn_primary t.kind
    cases htaken with
    | unsigned h =>
      have hread := (hprimary _ _ _).2 ⟨taken, rfl, h, hend⟩
      exact (readOperand_of_derives (List.forall_mem_nil _) h).trans (Reader.map_eq_ok.2 ⟨e, hread, rfl⟩)
    | @signed _ signs taken e hne hsigns h =>
      have hread := (hprimary _ _ _).2 ⟨taken, rfl, h, hend⟩
      rw [List.append_assoc, readOperand_of_derives hsigns h]
      refine Reader.map_eq_ok.2 ⟨e, hread, ?_⟩
      rw [underSigns, if_neg (by simpa using hne)]

/-! ### Expressions -/

/-- An expression reader takes what the grammar derives, with as many parentheses as it may open. -/
theorem expression_recognizes (nesting : Nat) :
    Recognizes (expression nesting).read nesting (.chain .disjunction) := by
  induction nesting with
  | zero =>
    have hprimary : Recognizes (readPrimary (inner? 0)) 0 .primary := readPrimary_recognizes (by simp)
    exact climb_recognizes (readOperand_recognizes hprimary)
  | succ nesting ih =>
    have hprimary : Recognizes (readPrimary (inner? (nesting + 1))) (nesting + 1) .primary := by
      apply readPrimary_recognizes
      rintro inside ⟨⟩
      exact ih
    exact climb_recognizes (readOperand_recognizes hprimary)

end Parsing

end SqlShell
