import SqlShell.Proofs.Parsing.Repetition
/-!
# Climbing and levels

Climbing reads operators of all precedences in one loop. A grammar has a level for each precedence, and each level is a
chain of what the next one reads. The two agree: with any demand, climbing reads a chain of just the operators that the
demand lets through and the next higher one does not, over what climbing reads with that higher demand
(`climb_eq_leftAssociated`). So climbing from the lowest precedence on is the readers of all levels over each other
(`climb_eq_disjunction`).
-/

namespace SqlShell

namespace Parsing

/-! ### Levels -/

/-- The levels of binary operators, from the loosest to the tightest. -/
inductive Level where
  | disjunction
  | conjunction
  | comparison
  | sum
  | product
deriving DecidableEq

/-- The level of a binary operator. -/
def level? : Token.Kind → Option Level
  | .keyword .or => some .disjunction
  | .keyword .and => some .conjunction
  | .symbol .equal | .symbol .notEqual | .symbol .less | .symbol .greater | .symbol .lessEqual
  | .symbol .greaterEqual => some .comparison
  | .symbol .plus | .symbol .minus => some .sum
  | .symbol .asterisk | .symbol .slash => some .product
  | _ => none

def Level.rank : Level → Nat
  | .disjunction => 0
  | .conjunction => 1
  | .comparison => 2
  | .sum => 3
  | .product => 4

theorem Level.rank_lt (level : Level) : level.rank < 5 := by
  cases level <;> decide

theorem Level.rank_injective {level other : Level} (h : level.rank = other.rank) : level = other := by
  cases level <;> cases other <;> first | rfl | exact absurd h (by decide)

/-- Precedences are counted from the loosest level on. -/
def Level.precedence (level : Level) : Nat :=
  level.rank + lowestPrecedence

theorem precedence?_eq (kind : Token.Kind) : precedence? kind = (level? kind).map Level.precedence := by
  cases kind with
  | keyword k => cases k <;> rfl
  | symbol s => cases s <;> rfl
  | _ => rfl

theorem level?_eq_some_iff {kind : Token.Kind} {level : Level} :
    level? kind = some level ↔ precedence? kind = some level.precedence := by
  rw [precedence?_eq, Option.map_eq_some_iff]
  constructor
  · intro h
    exact ⟨level, h, rfl⟩
  · rintro ⟨other, hother, hprecedence⟩
    rw [hother, Level.rank_injective (Nat.add_right_cancel hprecedence)]

/-- What stands behind an operator of a level. -/
def partBehind? (level : Level) (part : Phrase Expression) (kind : Token.Kind) : Option (Phrase Expression) :=
  if level? kind = some level then some part else none

theorem partBehind?_of_level {level : Level} {kind : Token.Kind} (h : level? kind = some level)
    (part : Phrase Expression) : partBehind? level part kind = some part :=
  if_pos h

/-- Parts with operators of one level between them, grouped to the left. -/
def leftAssociated (level : Level) (part : Phrase Expression) : Phrase Expression :=
  part.joined (partBehind? level part)

/-- All levels of operators over the operands. -/
def disjunction (operand : Phrase Expression) : Phrase Expression :=
  leftAssociated .disjunction <| leftAssociated .conjunction <| leftAssociated .comparison <|
    leftAssociated .sum <| leftAssociated .product operand

/-! ### The loop -/

/-- What climbing reads behind an operator, if the operator binds tightly enough to be taken. -/
def rightSide? (operand : Phrase Expression) (least : Nat) (kind : Token.Kind) : Option (Phrase Expression) :=
  match precedence? kind with
  | none => none
  | some precedence => if precedence < least then none else some (climb operand (precedence + 1))

variable {operand : Phrase Expression} {least precedence : Nat} {kind : Token.Kind}

theorem climb_eq (operand : Phrase Expression) (least : Nat) :
    climb operand least = operand.joined (rightSide? operand least) := by
  rw [climb]
  congr 1
  funext kind
  rw [rightSide?]
  split <;> simp_all

theorem rightSide?_eq_none_iff :
    rightSide? operand least kind = none ↔ ∀ precedence, precedence? kind = some precedence → precedence < least := by
  cases hprecedence : precedence? kind with
  | none => simp [rightSide?, hprecedence]
  | some precedence => simp [rightSide?, hprecedence]

theorem rightSide?_of_le (h : precedence? kind = some precedence) (hle : least ≤ precedence) :
    rightSide? operand least kind = some (climb operand (precedence + 1)) := by
  simp [rightSide?, h, Nat.not_lt.2 hle]

theorem rightSide?_eq_some {phrase : Phrase Expression} (h : rightSide? operand least kind = some phrase) :
    ∃ precedence, precedence? kind = some precedence ∧ least ≤ precedence ∧ phrase = climb operand (precedence + 1) := by
  by_cases htight : ∃ precedence, precedence? kind = some precedence ∧ least ≤ precedence
  · obtain ⟨precedence, hprecedence, hle⟩ := htight
    rw [rightSide?_of_le hprecedence hle] at h
    exact ⟨precedence, hprecedence, hle, (Option.some.inj h).symm⟩
  · have hnone : rightSide? operand least kind = none := by
      rw [rightSide?_eq_none_iff]
      intro precedence hprecedence
      exact Nat.lt_of_not_le fun hle => htight ⟨precedence, hprecedence, hle⟩
    rw [hnone] at h
    cases h

/-- Climbing goes on to an operator that does not bind tightly enough. -/
theorem climb_ends {tokens rest : List Token} {e : Expression} (h : (climb operand least).read tokens = .ok (e, rest)) :
    ∀ u ∈ rest.head?, rightSide? operand least u.kind = none := by
  rw [climb_eq] at h
  obtain ⟨first, middle, -, hjoined⟩ := Reader.bind_eq_ok.1 h
  exact Phrase.readJoined_ends hjoined

/-- What holds of the loop with any demand if it holds of what is read behind operators, holds of climbing. -/
theorem climb_induction (P : Phrase Expression → Prop)
    (h : ∀ least, (∀ kind phrase, rightSide? operand least kind = some phrase → P phrase) →
      P (operand.joined (rightSide? operand least))) (least : Nat) : P (climb operand least) := by
  -- The demand grows towards the tightest operators, behind which there is nothing left to climb.
  generalize hsteps : highestPrecedence + 1 - least = steps
  induction steps using Nat.strongRecOn generalizing least with
  | ind steps ih =>
    rw [climb_eq]
    apply h
    intro kind phrase hphrase
    obtain ⟨precedence, hprecedence, hle, rfl⟩ := rightSide?_eq_some hphrase
    have htightest := le_highestPrecedence hprecedence
    exact ih (highestPrecedence + 1 - (precedence + 1)) (by omega) _ rfl

/-! ### One level after the other -/

/-- Where no operator binds tightly enough, only an operand is read. -/
theorem climb_of_lt (h : highestPrecedence < least) : climb operand least = operand := by
  have hnone (kind : Token.Kind) : rightSide? operand least kind = none := by
    rw [rightSide?_eq_none_iff]
    intro precedence hprecedence
    exact Nat.lt_of_le_of_lt (le_highestPrecedence hprecedence) h
  apply Phrase.ext
  funext tokens
  rw [climb_eq]
  cases hread : operand.read tokens with
  | error e => exact Reader.bind_of_error hread
  | ok pair => exact (Reader.bind_of_ok hread).trans (Phrase.readJoined_of_end fun u _ => hnone u.kind)

/-- The loop of a demand goes through the loop of the next higher one, and through it again behind each operator that this
one leaves. -/
theorem readJoined_rightSide? (level : Level) (left : Expression) (tokens : List Token) :
    Phrase.readJoined (rightSide? operand level.precedence) left tokens =
      (Phrase.readJoined (rightSide? operand (level.precedence + 1)) left >>=
        Phrase.readJoined (partBehind? level (climb operand (level.precedence + 1)))) tokens := by
  have hends {left : Expression} {rest : List Token}
      (hrest : ∀ u ∈ rest.head?, rightSide? operand (level.precedence + 1) u.kind = none) :
      (Phrase.readJoined (rightSide? operand (level.precedence + 1)) left >>=
        Phrase.readJoined (partBehind? level (climb operand (level.precedence + 1)))) rest =
      Phrase.readJoined (partBehind? level (climb operand (level.precedence + 1))) left rest :=
    Reader.bind_of_ok (Phrase.readJoined_of_end hrest)
  fun_induction Phrase.readJoined (rightSide? operand level.precedence) left tokens with
  | case1 left =>
    rw [hends (by simp), Phrase.readJoined_of_end (by simp)]
  | case2 left t rest ht =>
    have hlt := rightSide?_eq_none_iff.1 ht
    have hhigher : rightSide? operand (level.precedence + 1) t.kind = none := by
      rw [rightSide?_eq_none_iff]
      intro precedence hprecedence
      exact Nat.lt_succ_of_lt (hlt precedence hprecedence)
    have hlevel : level? t.kind ≠ some level := by
      intro hlevel
      exact Nat.lt_irrefl _ (hlt _ (level?_eq_some_iff.1 hlevel))
    rw [hends (by simpa using hhigher), Phrase.readJoined_of_end (by simp [partBehind?, hlevel])]
  | case3 left t rest phrase ht e he =>
    obtain ⟨precedence, hprecedence, hle, rfl⟩ := rightSide?_eq_some ht
    rcases Nat.eq_or_lt_of_le hle with rfl | hlt
    · have hpart := partBehind?_of_level (level?_eq_some_iff.2 hprecedence) (climb operand (level.precedence + 1))
      rw [hends (by simp [rightSide?_eq_none_iff, hprecedence]), Phrase.readJoined_of_error hpart he]
    · exact (Reader.bind_of_error (Phrase.readJoined_of_error (rightSide?_of_le hprecedence hlt) he)).symm
  | case4 left t rest phrase ht right after hright ih =>
    obtain ⟨precedence, hprecedence, hle, rfl⟩ := rightSide?_eq_some ht
    rcases Nat.eq_or_lt_of_le hle with rfl | hlt
    · have hpart := partBehind?_of_level (level?_eq_some_iff.2 hprecedence) (climb operand (level.precedence + 1))
      rw [hends (by simp [rightSide?_eq_none_iff, hprecedence]), Phrase.readJoined_of_operand hpart hright, ih,
        hends (climb_ends hright)]
    · have hstep : Phrase.readJoined (rightSide? operand (level.precedence + 1)) left (t :: rest) = _ :=
        Phrase.readJoined_of_operand (rightSide?_of_le hprecedence hlt) hright
      rw [ih]
      show Except.bind _ _ = Except.bind _ _
      rw [hstep]

theorem climb_eq_leftAssociated (operand : Phrase Expression) (level : Level) :
    climb operand level.precedence = leftAssociated level (climb operand (level.precedence + 1)) := by
  apply Phrase.ext
  have hfirst : (climb operand (level.precedence + 1)).read =
      operand.read >>= Phrase.readJoined (rightSide? operand (level.precedence + 1)) := by
    rw [climb_eq]
    rfl
  have hloop : Phrase.readJoined (rightSide? operand level.precedence) = fun left =>
      Phrase.readJoined (rightSide? operand (level.precedence + 1)) left >>=
        Phrase.readJoined (partBehind? level (climb operand (level.precedence + 1))) := by
    funext left tokens
    exact readJoined_rightSide? level left tokens
  calc
    (climb operand level.precedence).read
    _ = operand.read >>= Phrase.readJoined (rightSide? operand level.precedence) := by rw [climb_eq]; rfl
    _ = (climb operand (level.precedence + 1)).read >>=
        Phrase.readJoined (partBehind? level (climb operand (level.precedence + 1))) := by rw [hloop, hfirst, bind_assoc]

/-- Climbing is the readers of all levels over each other. -/
theorem climb_eq_disjunction (operand : Phrase Expression) : climb operand lowestPrecedence = disjunction operand := by
  have hlevel (level next : Level) (h : level.precedence + 1 = next.precedence) :
      climb operand level.precedence = leftAssociated level (climb operand next.precedence) := by
    rw [climb_eq_leftAssociated, h]
  have hproduct : climb operand Level.product.precedence = leftAssociated .product operand := by
    rw [climb_eq_leftAssociated, climb_of_lt (by decide)]
  show climb operand Level.disjunction.precedence = _
  rw [hlevel .disjunction .conjunction rfl, hlevel .conjunction .comparison rfl, hlevel .comparison .sum rfl,
    hlevel .sum .product rfl, hproduct]
  rfl

end Parsing

end SqlShell
