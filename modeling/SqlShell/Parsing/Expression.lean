import SqlShell.Parsing.Phrase
/-!
# Reading expressions

The operators bind, from loosest to tightest: OR, AND, comparison, sum, product. They are read by climbing: behind an
operand, an operator is taken as long as it binds tightly enough, and its right side is read with a higher demand. The
operands are primaries under prefix signs. A primary in parentheses is an expression again, read with one parenthesis
less to spend; so the limit on nested parentheses is also what the definition recurs on.
-/

namespace SqlShell.Parsing

/-- The deepest nesting of parentheses. -/
def nestingLimit : Nat := 256

/-- How tightly a binary operator binds. -/
def precedence? : Token.Kind → Option Nat
  | .keyword .or => some 1
  | .keyword .and => some 2
  | .symbol .equal | .symbol .notEqual | .symbol .less | .symbol .greater | .symbol .lessEqual
  | .symbol .greaterEqual => some 3
  | .symbol .plus | .symbol .minus => some 4
  | .symbol .asterisk | .symbol .slash => some 5
  | _ => none

/-- The precedence of the operators that bind loosest. -/
def lowestPrecedence : Nat := 1

/-- The precedence of the operators that bind tightest. -/
def highestPrecedence : Nat := 5

theorem le_highestPrecedence {kind : Token.Kind} {precedence : Nat} (h : precedence? kind = some precedence) :
    precedence ≤ highestPrecedence := by
  unfold precedence? at h
  split at h
  all_goals first
    | exact Option.some.inj h ▸ by decide
    | simp at h

/-- The prefix signs `NOT`, `-` and `+`. -/
def isPrefixSign : Token.Kind → Bool
  | .keyword .not | .symbol .minus | .symbol .plus => true
  | _ => false

/-- A name or a literal. -/
def isTerm : Token.Kind → Bool
  | .identifier _ | .string _ | .numeral _ | .boolean _ | .keyword .null => true
  | _ => false

/-- An operand under prefix signs, which are given in the order in which they are written. -/
def underSigns (signs : List Token) (operand : Expression) : Expression :=
  if signs.isEmpty then operand else .unary signs.reverse operand

/-- A name, a literal, or an expression in parentheses. Where there is no reader for what stands in parentheses,
no parenthesis may be opened any more. -/
def readPrimary (parenthesized : Option (Phrase Expression)) : Reader Expression
  | [] => .error ⟨.expression, []⟩
  | t :: rest =>
    if isTerm t.kind then .ok (.term t, rest)
    else if t.kind = .symbol .leftParen then
      match parenthesized with
      | none => .error ⟨.nesting nestingLimit, t :: rest⟩
      | some inner => (do
          let e ← inner.read
          Reader.symbol .rightParen
          return e : Reader Expression) rest
    else .error ⟨.expression, t :: rest⟩

/-- Prefix signs and the primary behind them. -/
def readOperand (parenthesized : Option (Phrase Expression)) : Reader Expression := fun tokens =>
  (underSigns (tokens.takeWhile (isPrefixSign ·.kind)) <$> readPrimary parenthesized)
    (tokens.dropWhile (isPrefixSign ·.kind))

theorem readPrimary_progresses (parenthesized : Option (Phrase Expression)) :
    (readPrimary parenthesized).Progresses := by
  intro tokens e rest h
  cases tokens with
  | nil => simp [readPrimary] at h
  | cons t tail =>
    rw [readPrimary.eq_def] at h
    dsimp only at h
    split at h
    · obtain ⟨-, rfl⟩ := Prod.mk.inj (Except.ok.inj h)
      exact ⟨List.suffix_cons _ _, by simp⟩
    · split at h
      · cases parenthesized with
        | none => simp at h
        | some inner =>
          have hinner := inner.progresses.bind (f := fun e => do Reader.symbol .rightParen; return e)
            (fun e => (Reader.Progresses.symbol .rightParen).fromFront.bind fun _ => .pure e)
          obtain ⟨hsuffix, hlt⟩ := hinner h
          exact ⟨hsuffix.trans (List.suffix_cons _ _), Nat.lt_succ_of_lt hlt⟩
      · simp at h

/-- An operand: prefix signs and a primary. -/
def operand (parenthesized : Option (Phrase Expression)) : Phrase Expression where
  read := readOperand parenthesized
  progresses := by
    intro tokens e rest h
    obtain ⟨hsuffix, hlt⟩ := (readPrimary_progresses parenthesized).map _ h
    have hdrop := List.dropWhile_suffix (isPrefixSign ·.kind) (l := tokens)
    exact ⟨hsuffix.trans hdrop, Nat.lt_of_lt_of_le hlt hdrop.length_le⟩

/-- Operands with operators between them that bind at least as tightly as `least`. Behind an operator only operators that
bind more tightly go on with its right side, so that those that bind as tightly group to the left. -/
def climb (operand : Phrase Expression) (least : Nat) : Phrase Expression :=
  operand.joined fun kind =>
    match _hprecedence : precedence? kind with
    | none => none
    | some precedence => if precedence < least then none else some (climb operand (precedence + 1))
termination_by highestPrecedence + 1 - least
decreasing_by
  have hle := le_highestPrecedence _hprecedence
  omega

/-- An expression in which at most `nesting` parentheses may be open at once. -/
def expression : (nesting : Nat) → Phrase Expression
  | 0 => climb (operand none) lowestPrecedence
  | nesting + 1 => climb (operand (some (expression nesting))) lowestPrecedence

end SqlShell.Parsing
