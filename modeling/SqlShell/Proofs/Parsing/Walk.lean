import SqlShell.Proofs.Parsing.Repetition
import SqlShell.Proofs.Parsing.Stream
/-!
# Walks over a token list

A reader hands back the tokens it has left, so it cannot leave a place behind that is wrong. Here reading is an action on
one place in one token list and one count of open parentheses. An error leaves both wherever they were when it came up,
and every walk has to see for itself that they are put right again. `Walk.Performs` says that a walk gives what a reader
gives and leaves the place behind the tokens that the reader takes; where the reader fails, the place may be anywhere,
but the parentheses have been closed.
-/

namespace SqlShell

open Parsing

namespace TokenStream

/-- One more parenthesis is open. -/
def opened (s : TokenStream) : TokenStream :=
  { s with openParentheses := s.openParentheses + 1 }

/-- One parenthesis less is open. -/
def closed (s : TokenStream) : TokenStream :=
  { s with openParentheses := s.openParentheses - 1 }

end TokenStream

/-- An action on a place in a token list. An error keeps the place that was reached. -/
abbrev Walk (α : Type) := ExceptT ParseError (StateM TokenStream) α

namespace Walk

variable {α β : Type}

/-- What a walk gives on a stream, and the stream that it leaves. -/
def on (w : Walk α) (s : TokenStream) : Except ParseError α × TokenStream :=
  w.run.run s

/-! ### Single tokens -/

/-- The token at the place. -/
def current? : Walk (Option Token) := do
  let s ← get
  return s.tokens[s.taken]?

/-- Takes the token at the place, if there is one. -/
def advance : Walk Unit :=
  modify fun s => if s.taken < s.tokens.length then { s with taken := s.taken + 1 } else s

/-- Fails at the token at the place, or at the last one where there is none. -/
def fail (expected : Expectation) : Walk α := do
  let s ← get
  throw ⟨((s.tokens[s.taken]?.or s.tokens.getLast?).map (·.location)).getD Location.start, expected⟩

/-- Takes the next token if it is of an accepted kind. -/
def take? (accepts : Token.Kind → Bool) : Walk (Option Token) := do
  match ← current? with
  | none => return none
  | some t =>
    if accepts t.kind then
      advance
      return some t
    else return none

/-- Takes the next token, which must be of an accepted kind. -/
def expect (accepts : Token.Kind → Bool) (expected : Expectation) : Walk Token := do
  match ← take? accepts with
  | some t => return t
  | none => fail expected

/-- Takes a keyword if it comes next, and says whether it did. -/
def keyword? (k : Keyword) : Walk Bool :=
  Option.isSome <$> take? (· = .keyword k)

/-- Takes a keyword, which must come next. -/
def keyword (k : Keyword) : Walk Unit :=
  (fun _ => ()) <$> expect (· = .keyword k) (.keyword k)

/-- Takes a sign, which must come next. -/
def symbol (s : Symbol) : Walk Unit :=
  (fun _ => ()) <$> expect (· = .symbol s) (.symbol s)

/-- Takes a name, which must come next. -/
def identifier (expected : Expectation) : Walk Token :=
  expect Reader.isIdentifier expected

/-! ### Going back -/

/-- Whether something is given: neither an error nor nothing. -/
def given : Except ParseError (Option α) → Bool
  | .ok (some _) => true
  | _ => false

/-- Goes back to the place of entry unless something is given. -/
def attempt (w : Walk (Option α)) : Walk (Option α) := ExceptT.mk do
  let start := (← get).taken
  let result ← w.run
  modify fun after => if given result then after else { after with taken := start }
  return result

/-- Goes back to the place of entry on an error. -/
def restoring (w : Walk α) : Walk α := ExceptT.mk do
  let start := (← get).taken
  let result ← w.run
  modify fun after => if result.isOk then after else { after with taken := start }
  return result

/-- Counts one more parenthesis as open until the walk has ended, well or badly. -/
def nested (w : Walk α) : Walk α := ExceptT.mk do
  modify (·.opened)
  let result ← w.run
  modify (·.closed)
  return result

/-! ### Repetition -/

/-- Goes on as long as a token of an accepted kind comes next, but not for more rounds than the bound. -/
def rounds (accepts : Token.Kind → Bool) (grow : α → Token → Walk α) : Nat → α → Walk α
  | 0, a => return a
  | bound + 1, a => do
    match ← take? accepts with
    | none => return a
    | some t => rounds accepts grow bound (← grow a t)

/-- Goes on as long as a token of an accepted kind comes next. Every round takes that token, so that there are no more
rounds than tokens. -/
def loop (accepts : Token.Kind → Bool) (grow : α → Token → Walk α) (a : α) : Walk α := do
  let s ← get
  rounds accepts grow s.rest.length a

/-- One or more items with commas between them. -/
def commaSeparated (item : Walk α) : Walk (List α) := do
  let first ← item
  loop (· = .symbol .comma) (fun items _ => (items ++ [·]) <$> item) [first]

/-! ### Expressions -/

/-- Joins what is to be read behind an operator, if there is anything. -/
def join (right? : Token.Kind → Option (Walk Expression)) (left : Expression) (t : Token) : Walk Expression :=
  match right? t.kind with
  | none => return left
  | some operand => .binary t left <$> operand

/-- A first operand, and what is joined to it: as long as an operator comes next that something is to be read behind,
takes the operator and reads that. -/
def joined (first : Walk Expression) (right? : Token.Kind → Option (Walk Expression)) : Walk Expression := do
  let left ← first
  loop (fun kind => (right? kind).isSome) (join right?) left

/-- Operands with operators between them that bind at least as tightly as `least`. -/
def climb (operand : Walk Expression) (least : Nat) : Walk Expression :=
  joined operand fun kind =>
    match _hprecedence : precedence? kind with
    | none => none
    | some precedence => if precedence < least then none else some (climb operand (precedence + 1))
termination_by highestPrecedence + 1 - least
decreasing_by
  have hle := le_highestPrecedence _hprecedence
  omega

/-- An expression in parentheses, of which no more may be open than the limit. -/
def parenthesized (inner : Walk Expression) : Walk Expression := do
  if (← get).openParentheses ≥ nestingLimit then fail (.nesting nestingLimit)
  else
    advance
    let e ← nested inner
    symbol .rightParen
    return e

/-- A name, a literal, or an expression in parentheses. -/
def primary (inner : Walk Expression) : Walk Expression := do
  match ← current? with
  | none => fail .expression
  | some t =>
    if isTerm t.kind then
      advance
      return .term t
    else if t.kind = .symbol .leftParen then parenthesized inner
    else fail .expression

/-- Prefix signs and the primary behind them. -/
def operand (inner : Walk Expression) : Walk Expression := do
  let signs ← loop isPrefixSign (fun signs t => return signs ++ [t]) []
  underSigns signs <$> primary inner

/-- An expression with parentheses in it down to the given depth. -/
def expressionTo : (depth : Nat) → Walk Expression
  | 0 => climb (operand (fail .expression)) lowestPrecedence
  | depth + 1 => climb (operand (expressionTo depth)) lowestPrecedence

/-- An expression. On an error, the place is that of entry. -/
def expression : Walk Expression :=
  restoring (expressionTo nestingLimit)

/-! ### What walks do -/

variable {s next : TokenStream}

theorem on_bind_of_ok {w : Walk α} {k : α → Walk β} {a : α} (h : w.on s = (.ok a, next)) :
    (w >>= k).on s = (k a).on next := by
  change w.run.run s = _ at h
  rw [on, ExceptT.run_bind, StateT.run_bind, h]
  rfl

theorem on_bind_of_error {w : Walk α} {k : α → Walk β} {e : ParseError} (h : w.on s = (.error e, next)) :
    (w >>= k).on s = (.error e, next) := by
  change w.run.run s = _ at h
  rw [on, ExceptT.run_bind, StateT.run_bind, h]
  rfl

theorem on_attempt (w : Walk (Option α)) :
    (attempt w).on s =
      ((w.on s).1, if given (w.on s).1 then (w.on s).2 else { (w.on s).2 with taken := s.taken }) :=
  rfl

theorem on_restoring (w : Walk α) :
    (restoring w).on s =
      ((w.on s).1, if (w.on s).1.isOk then (w.on s).2 else { (w.on s).2 with taken := s.taken }) :=
  rfl

theorem on_nested (w : Walk α) : (nested w).on s = ((w.on s.opened).1, (w.on s.opened).2.closed) :=
  rfl

end Walk

/-! ### Places -/

namespace TokenStream

variable {s : TokenStream} {rest rest' : List Token}

theorem rest_moveTo (h : rest <:+ s.rest) : (s.moveTo rest).rest = rest := by
  obtain ⟨taken, htaken⟩ := h
  have hdrop : s.rest.drop taken.length = rest := by rw [← htaken, List.drop_left]
  rw [moveTo, ← htaken, List.length_append, Nat.add_sub_cancel, ← hdrop]
  exact List.drop_drop.symm

theorem moveTo_moveTo (h : rest <:+ s.rest) (h' : rest' <:+ rest) :
    (s.moveTo rest).moveTo rest' = s.moveTo rest' := by
  have hplace : s.taken + (s.rest.length - rest.length) + (rest.length - rest'.length) =
      s.taken + (s.rest.length - rest'.length) := by
    have := h.length_le
    have := h'.length_le
    omega
  rw [moveTo, rest_moveTo h]
  exact congrArg (fun taken => { s with taken }) hplace

theorem moveTo_rest : s.moveTo s.rest = s := by
  rw [moveTo, Nat.sub_self]
  rfl

theorem current?_eq : s.tokens[s.taken]? = s.rest.head? :=
  List.head?_drop.symm

end TokenStream

namespace Walk

variable {α β : Type} {s next : TokenStream} {nesting : Nat}

/-- The walk has come to what the reader gives on the tokens in front of the place. -/
def Agrees (s : TokenStream) : Except Failure (α × List Token) → Except ParseError α × TokenStream → Prop
  | .ok (a, rest), result => rest <:+ s.rest ∧ result = (.ok a, s.moveTo rest)
  | .error f, result => ∃ taken, result = (.error (f.toParseError s.tokens), { s with taken })

/-- The walk does what the reader does, wherever so many more parentheses may be opened. -/
def Performs (nesting : Nat) (w : Walk α) (reader : Reader α) : Prop :=
  ∀ s : TokenStream, s.nesting = nesting → Agrees s (reader s.rest) (w.on s)

theorem agrees_of_rest {rest : List Token} (hrest : s.rest = rest) (a : α) : Agrees s (.ok (a, rest)) (.ok a, s) := by
  subst hrest
  exact ⟨List.suffix_refl _, by rw [TokenStream.moveTo_rest]⟩

theorem on_fail (expected : Expectation) :
    (fail expected : Walk α).on s = (.error (Failure.toParseError s.tokens ⟨expected, s.rest⟩), s) := by
  show (Except.error (ParseError.mk (((s.tokens[s.taken]?.or s.tokens.getLast?).map _).getD _) expected), s) = _
  rw [TokenStream.current?_eq]
  rfl

theorem Agrees.of_moveTo {rest : List Token} (hrest : rest <:+ s.rest) {x : Except Failure (α × List Token)}
    {result : Except ParseError α × TokenStream} (h : Agrees (s.moveTo rest) x result) : Agrees s x result := by
  cases x with
  | error f => exact h
  | ok pair =>
    obtain ⟨hsuffix, hresult⟩ := h
    rw [TokenStream.rest_moveTo hrest] at hsuffix
    exact ⟨hsuffix.trans hrest, hresult.trans (by rw [TokenStream.moveTo_moveTo hrest hsuffix])⟩

/-- Going on where a walk has come to what a reader gives. -/
theorem Agrees.bind {w : Walk α} {reader : Reader α} {k : α → Walk β} {f : α → Reader β}
    {tokens : List Token} (hw : Agrees s (reader tokens) (w.on s))
    (hk : ∀ a rest, reader tokens = .ok (a, rest) → rest <:+ s.rest →
      Agrees (s.moveTo rest) (f a rest) ((k a).on (s.moveTo rest))) :
    Agrees s ((reader >>= f) tokens) ((w >>= k).on s) := by
  show Agrees s (Except.bind (reader tokens) fun pair => f pair.1 pair.2) _
  cases hread : reader tokens with
  | error failure =>
    rw [hread] at hw
    obtain ⟨taken, hresult⟩ := hw
    exact ⟨taken, on_bind_of_error hresult⟩
  | ok pair =>
    obtain ⟨a, rest⟩ := pair
    rw [hread] at hw
    obtain ⟨hsuffix, hresult⟩ := hw
    rw [on_bind_of_ok hresult]
    exact (hk a rest hread hsuffix).of_moveTo hsuffix

namespace Performs

variable {w : Walk α} {reader : Reader α}

theorem pure (a : α) : Performs nesting (pure a) (pure a) :=
  fun _ _ => agrees_of_rest rfl a

theorem bind {k : α → Walk β} {f : α → Reader β} (hw : Performs nesting w reader)
    (hk : ∀ a, Performs nesting (k a) (f a)) : Performs nesting (w >>= k) (reader >>= f) := by
  intro s hs
  refine (hw s hs).bind fun a rest _ hsuffix => ?_
  have hnext := hk a (s.moveTo rest) hs
  rwa [TokenStream.rest_moveTo hsuffix] at hnext

theorem map (f : α → β) (hw : Performs nesting w reader) : Performs nesting (f <$> w) (f <$> reader) := by
  rw [map_eq_pure_bind, map_eq_pure_bind]
  exact hw.bind fun a => .pure (f a)

theorem fail (expected : Expectation) :
    Performs nesting (Walk.fail expected : Walk α) (Reader.fail expected) :=
  fun s _ => ⟨s.taken, on_fail expected⟩

theorem current?_bind {k : Option Token → Walk α} (h : ∀ s, s.nesting = nesting →
    Agrees s (reader s.rest) ((k s.rest.head?).on s)) : Performs nesting (current? >>= k) reader := by
  intro s hs
  show Agrees s _ ((k s.tokens[s.taken]?).on s)
  rw [TokenStream.current?_eq]
  exact h s hs

end Performs

theorem advance_bind {k : Walk α} {t : Token} {rest : List Token} (hrest : s.rest = t :: rest) :
    (advance >>= fun _ => k).on s = k.on (s.moveTo rest) := by
  have hlt : s.taken < s.tokens.length := by
    have hlength := congrArg List.length hrest
    rw [TokenStream.rest, List.length_drop, List.length_cons] at hlength
    omega
  have hmove : s.moveTo rest = { s with taken := s.taken + 1 } :=
    TokenStream.moveTo_of_append (show s.rest = [t] ++ rest from hrest)
  have hadvance : advance.on s = (.ok (), s.moveTo rest) := by
    show (Except.ok (), if s.taken < s.tokens.length then { s with taken := s.taken + 1 } else s) = _
    rw [if_pos hlt, hmove]
  exact on_bind_of_ok hadvance

theorem on_current? : current?.on s = (.ok s.rest.head?, s) :=
  congrArg (fun t? => (Except.ok t?, s)) TokenStream.current?_eq

theorem on_take?_of_accepted {accepts : Token.Kind → Bool} {t : Token} {rest : List Token} (hrest : s.rest = t :: rest)
    (ht : accepts t.kind = true) : (take? accepts).on s = (.ok (some t), s.moveTo rest) := by
  have hcurrent : current?.on s = (.ok (some t), s) := by rw [on_current?, hrest, List.head?_cons]
  rw [take?, on_bind_of_ok hcurrent]
  show on (if accepts t.kind then advance >>= fun _ => pure (some t) else pure none) s = _
  rw [if_pos ht, advance_bind hrest]
  rfl

theorem on_take?_of_refused {accepts : Token.Kind → Bool} (h : ∀ t ∈ s.rest.head?, accepts t.kind = false) :
    (take? accepts).on s = (.ok none, s) := by
  rw [take?, on_bind_of_ok on_current?]
  cases hcurrent : s.rest.head? with
  | none => rfl
  | some t =>
    show on (if accepts t.kind then advance >>= fun _ => pure (some t) else pure none) s = _
    rw [if_neg (by simp [h t hcurrent])]
    rfl

theorem on_expect_of_accepted {accepts : Token.Kind → Bool} {t : Token} {rest : List Token} (hrest : s.rest = t :: rest)
    (ht : accepts t.kind = true) (expected : Expectation) :
    (expect accepts expected).on s = (.ok t, s.moveTo rest) :=
  on_bind_of_ok (on_take?_of_accepted hrest ht)

/-- A token that is refused is not taken. -/
theorem on_expect_of_refused {accepts : Token.Kind → Bool} (h : ∀ t ∈ s.rest.head?, accepts t.kind = false)
    (expected : Expectation) :
    (expect accepts expected).on s = (.error (Failure.toParseError s.tokens ⟨expected, s.rest⟩), s) :=
  (on_bind_of_ok (on_take?_of_refused h)).trans (on_fail expected)

/-- What is done behind a token that has been taken. -/
theorem agrees_advance {k : Walk α} {t : Token} {rest : List Token} (hrest : s.rest = t :: rest)
    {x : Except Failure (α × List Token)} (h : Agrees (s.moveTo rest) x (k.on (s.moveTo rest))) :
    Agrees s x ((advance >>= fun _ => k).on s) := by
  rw [advance_bind hrest]
  exact h.of_moveTo (hrest ▸ List.suffix_cons t rest)

theorem rest_moveTo_of_cons {t : Token} {rest : List Token} (hrest : s.rest = t :: rest) :
    (s.moveTo rest).rest = rest :=
  TokenStream.rest_moveTo (hrest ▸ List.suffix_cons t rest)

namespace Performs

theorem take? (accepts : Token.Kind → Bool) : Performs nesting (Walk.take? accepts) (Reader.take? accepts) := by
  intro s _
  cases hrest : s.rest with
  | nil =>
    rw [on_take?_of_refused (by simp [hrest])]
    exact agrees_of_rest hrest none
  | cons t rest =>
    rw [Reader.take?]
    by_cases haccepts : accepts t.kind = true
    · rw [if_pos haccepts, on_take?_of_accepted hrest haccepts]
      exact ⟨hrest ▸ List.suffix_cons t rest, rfl⟩
    · rw [if_neg haccepts, on_take?_of_refused (by simpa [hrest] using haccepts)]
      exact agrees_of_rest hrest none

theorem length_of_take? {accepts : Token.Kind → Bool} {tokens rest : List Token} {t : Token}
    (h : Reader.take? accepts tokens = .ok (some t, rest)) : rest.length < tokens.length := by
  cases tokens with
  | nil => simp [Reader.take?] at h
  | cons u tail =>
    rw [Reader.take?] at h
    split at h
    · obtain ⟨-, rfl⟩ := Prod.mk.inj (Except.ok.inj h)
      exact Nat.lt_succ_self _
    · simp at h

theorem expect_eq (accepts : Token.Kind → Bool) (expected : Expectation) :
    Reader.expect accepts expected = Reader.take? accepts >>= fun t => match t with
      | some t => Pure.pure t
      | none => Reader.fail expected := by
  funext tokens
  show _ = Except.bind (Reader.take? accepts tokens) _
  cases tokens with
  | nil => rfl
  | cons t rest =>
    rw [Reader.expect, Reader.take?]
    split <;> rfl

theorem expect (accepts : Token.Kind → Bool) (expected : Expectation) :
    Performs nesting (Walk.expect accepts expected) (Reader.expect accepts expected) := by
  rw [expect_eq]
  refine (take? accepts).bind fun t => ?_
  cases t with
  | none => exact .fail expected
  | some t => exact .pure t

theorem keyword? (k : Keyword) : Performs nesting (Walk.keyword? k) (Reader.keyword? k) :=
  (take? _).map _

theorem keyword (k : Keyword) : Performs nesting (Walk.keyword k) (Reader.keyword k) :=
  (expect _ _).map _

theorem symbol (symbol : Symbol) : Performs nesting (Walk.symbol symbol) (Reader.symbol symbol) :=
  (expect _ _).map _

theorem identifier (expected : Expectation) :
    Performs nesting (Walk.identifier expected) (Reader.identifier expected) :=
  expect _ _

/-! ### Repetition -/

section Loop

variable {accepts : Token.Kind → Bool} {grow : α → Token → Walk α} {readGrow : α → Token → Reader α}
  {reader : α → Reader α} (hgrow : ∀ a t, Performs nesting (grow a t) (readGrow a t))
  (hend : ∀ a tokens, (∀ t ∈ tokens.head?, accepts t.kind = false) → reader a tokens = .ok (a, tokens))
  (hmore : ∀ a t rest, accepts t.kind = true → reader a (t :: rest) = (readGrow a t >>= reader) rest)

include hend hmore

omit hgrow in
theorem reader_eq (a : α) : reader a = Reader.take? accepts >>= fun t => match t with
    | none => Pure.pure a
    | some t => readGrow a t >>= reader := by
  funext tokens
  show _ = Except.bind (Reader.take? accepts tokens) _
  cases tokens with
  | nil => exact hend a [] (by simp)
  | cons t rest =>
    rw [Reader.take?]
    by_cases haccepts : accepts t.kind = true
    · rw [if_pos haccepts, hmore a t rest haccepts]
      rfl
    · rw [if_neg haccepts, hend a (t :: rest) (by simpa using haccepts)]
      rfl

include hgrow

/-- As many rounds as there are tokens are enough. -/
theorem rounds_agrees (bound : Nat) (a : α) (s : TokenStream) (hs : s.nesting = nesting)
    (hbound : s.rest.length ≤ bound) : Agrees s (reader a s.rest) ((rounds accepts grow bound a).on s) := by
  induction bound generalizing a s with
  | zero =>
    have hrest : s.rest = [] := List.length_eq_zero_iff.1 (Nat.le_zero.1 hbound)
    rw [hrest, hend a [] (by simp)]
    exact agrees_of_rest hrest a
  | succ bound ih =>
    rw [reader_eq hend hmore a]
    refine (take? accepts s hs).bind fun t rest hread hsuffix => ?_
    have hrest := TokenStream.rest_moveTo hsuffix
    cases t with
    | none => exact agrees_of_rest hrest a
    | some t =>
      have hlt := length_of_take? hread
      have hgrown := hgrow a t (s.moveTo rest) hs
      rw [hrest] at hgrown
      refine hgrown.bind fun b rest' _ hsuffix' => ?_
      have hrest' := TokenStream.rest_moveTo hsuffix'
      have hle := hsuffix'.length_le
      rw [hrest] at hle
      have hnext := ih b ((s.moveTo rest).moveTo rest') hs (by rw [hrest']; omega)
      rwa [hrest'] at hnext

theorem loop (a : α) : Performs nesting (Walk.loop accepts grow a) (reader a) :=
  fun s hs => rounds_agrees hgrow hend hmore s.rest.length a s hs (Nat.le_refl _)

end Loop

/-- Behind some items: further ones, each behind a comma. -/
def moreItems (item : Phrase α) (items : List α) : Reader (List α)
  | [] => .ok (items, [])
  | t :: rest =>
    if t.kind = .symbol .comma then ((items ++ ·) <$> item.commaSeparated.read : Reader (List α)) rest
    else .ok (items, t :: rest)

theorem commaSeparated_eq (item : Phrase α) :
    item.commaSeparated.read = item.read >>= fun a => moreItems item [a] := by
  funext tokens
  show item.readCommaSeparated tokens = Except.bind (item.read tokens) _
  cases hitem : item.read tokens with
  | error failure => exact Phrase.readCommaSeparated_of_error hitem
  | ok pair =>
    obtain ⟨a, rest⟩ := pair
    cases rest with
    | nil => exact Phrase.readCommaSeparated_of_last hitem (by simp)
    | cons t rest =>
      by_cases hcomma : t.kind = .symbol .comma
      · rw [Phrase.readCommaSeparated_of_comma hitem hcomma]
        show _ = ite _ _ _
        rw [if_pos hcomma]
        show _ = Except.bind (item.readCommaSeparated rest) _
        cases item.readCommaSeparated rest <;> rfl
      · rw [Phrase.readCommaSeparated_of_last hitem (by simpa using hcomma)]
        show _ = ite _ _ _
        rw [if_neg hcomma]

theorem append_moreItems (item : Phrase α) (before items : List α) :
    (before ++ ·) <$> moreItems item items = moreItems item (before ++ items) := by
  funext tokens
  show Except.bind (moreItems item items tokens) _ = _
  cases tokens with
  | nil => rfl
  | cons t rest =>
    rw [moreItems, moreItems]
    split
    · show Except.bind (Except.bind (item.commaSeparated.read rest) _) _ = Except.bind (item.commaSeparated.read rest) _
      cases item.commaSeparated.read rest with
      | error failure => rfl
      | ok pair =>
        show Except.ok (before ++ (items ++ pair.1), pair.2) = Except.ok (before ++ items ++ pair.1, pair.2)
        rw [List.append_assoc]
    · rfl

theorem commaSeparated {item : Walk α} {phrase : Phrase α} (h : Performs nesting item phrase.read) :
    Performs nesting (Walk.commaSeparated item) phrase.commaSeparated.read := by
  rw [commaSeparated_eq]
  refine h.bind fun first => loop (fun items _ => h.map _) (fun items tokens hend => ?_) (fun items t rest ht => ?_) _
  · cases tokens with
    | nil => rfl
    | cons t rest =>
      rw [moreItems, if_neg (by simpa using hend t rfl)]
  · rw [moreItems, if_pos (by simpa using ht), commaSeparated_eq, map_bind, bind_map_left]
    simp only [append_moreItems]

/-! ### Expressions -/

/-- One round of a reader that joins operands. -/
def readJoin (right? : Token.Kind → Option (Phrase Expression)) (left : Expression) (t : Token) : Reader Expression :=
  match right? t.kind with
  | none => Pure.pure left
  | some operand => .binary t left <$> operand.read

theorem readJoined_cons {right? : Token.Kind → Option (Phrase Expression)} {phrase : Phrase Expression} {t : Token}
    (ht : right? t.kind = some phrase) (left : Expression) (rest : List Token) :
    Phrase.readJoined right? left (t :: rest) = (readJoin right? left t >>= Phrase.readJoined right?) rest := by
  have hjoin : readJoin right? left t = .binary t left <$> phrase.read := by rw [readJoin, ht]
  rw [hjoin]
  show _ = Except.bind (Except.bind (phrase.read rest) _) _
  cases hread : phrase.read rest with
  | error failure => exact Phrase.readJoined_of_error ht hread
  | ok pair => exact Phrase.readJoined_of_operand ht hread

section Joined

variable {right? : Token.Kind → Option (Walk Expression)} {readRight? : Token.Kind → Option (Phrase Expression)}
  (hright : ∀ kind, Option.Rel (fun w phrase => Performs nesting w phrase.read) (right? kind) (readRight? kind))
include hright

theorem join (left : Expression) (t : Token) :
    Performs nesting (Walk.join right? left t) (readJoin readRight? left t) := by
  have hboth := hright t.kind
  rw [Walk.join, readJoin]
  generalize right? t.kind = operand, readRight? t.kind = phrase at hboth
  cases hboth with
  | none => exact .pure left
  | some hoperand => exact hoperand.map _

theorem joined {first : Walk Expression} {phrase : Phrase Expression} (h : Performs nesting first phrase.read) :
    Performs nesting (first.joined right?) (phrase.joined readRight?).read := by
  have hsame (kind : Token.Kind) : (readRight? kind).isSome = (right? kind).isSome := by
    have hboth := hright kind
    generalize right? kind = operand, readRight? kind = phrase at hboth
    cases hboth <;> rfl
  refine h.bind fun first => loop (join hright) (fun left tokens hend => ?_) (fun left t rest ht => ?_) first
  · apply Phrase.readJoined_of_end
    intro t ht
    rw [← Option.not_isSome_iff_eq_none, hsame, hend t ht]
    exact Bool.false_ne_true
  · rw [← hsame] at ht
    obtain ⟨operand, hoperand⟩ := Option.isSome_iff_exists.1 ht
    exact readJoined_cons hoperand left rest

end Joined

theorem climb {operand : Walk Expression} {phrase : Phrase Expression} (h : Performs nesting operand phrase.read)
    (least : Nat) : Performs nesting (Walk.climb operand least) (Parsing.climb phrase least).read := by
  generalize hsteps : highestPrecedence + 1 - least = steps
  induction steps using Nat.strongRecOn generalizing least with
  | ind steps ih =>
    rw [Walk.climb, climb_eq]
    apply joined _ h
    intro kind
    split
    · next hnone =>
      rw [rightSide?_eq_none_iff.2 (by simp [hnone])]
      exact .none
    · next precedence hprecedence =>
      have hle := le_highestPrecedence hprecedence
      split
      · next hlt =>
        rw [rightSide?_eq_none_iff.2 (by simp [hprecedence, hlt])]
        exact .none
      · next hge =>
        rw [rightSide?_of_le hprecedence (Nat.not_lt.1 hge)]
        exact .some (ih (highestPrecedence + 1 - (precedence + 1)) (by omega) _ rfl)

/-- The parenthesis that is counted on the way in is forgotten on the way out. -/
theorem nested {inner : Walk α} {reader : Reader α} (h : Performs nesting inner reader) :
    Performs (nesting + 1) (Walk.nested inner) reader := by
  intro s hs
  have hinner : s.opened.nesting = nesting := by
    have hnesting : s.opened.nesting = nestingLimit - (s.openParentheses + 1) := rfl
    rw [TokenStream.nesting] at hs
    omega
  have hagrees : Agrees s.opened (reader s.rest) (inner.on s.opened) := h _ hinner
  rw [on_nested]
  cases hread : reader s.rest with
  | error failure =>
    rw [hread] at hagrees
    obtain ⟨taken, hresult⟩ := hagrees
    exact ⟨taken, by rw [hresult]; rfl⟩
  | ok pair =>
    rw [hread] at hagrees
    obtain ⟨hsuffix, hresult⟩ := hagrees
    exact ⟨hsuffix, by rw [hresult]; rfl⟩

section Primary

variable {inner : Walk Expression} {phrase? : Option (Phrase Expression)}

/-- Only a left parenthesis leads to what stands in parentheses. -/
theorem primary_of_parenthesized (h : ∀ s t rest, s.nesting = nesting → s.rest = t :: rest →
      t.kind = .symbol .leftParen → Agrees s (readPrimary phrase? (t :: rest)) ((parenthesized inner).on s)) :
    Performs nesting (Walk.primary inner) (readPrimary phrase?) := by
  refine current?_bind fun s hs => ?_
  have hfail : Agrees s (Reader.fail .expression s.rest) ((Walk.fail .expression : Walk Expression).on s) :=
    fail .expression s hs
  cases hrest : s.rest with
  | nil =>
    rw [hrest] at hfail
    exact hfail
  | cons t rest =>
    rw [hrest] at hfail
    show Agrees s _ (on (if isTerm t.kind then advance >>= fun _ => Pure.pure (.term t)
      else if t.kind = .symbol .leftParen then parenthesized inner else Walk.fail .expression) s)
    by_cases hterm : isTerm t.kind = true
    · rw [if_pos hterm, readPrimary_of_term hterm]
      exact agrees_advance hrest (agrees_of_rest (rest_moveTo_of_cons hrest) _)
    · rw [if_neg hterm]
      by_cases hparen : t.kind = .symbol .leftParen
      · rw [if_pos hparen]
        exact h s t rest hs hrest hparen
      · have hread : readPrimary phrase? (t :: rest) = .error ⟨.expression, t :: rest⟩ := by
          simp only [readPrimary, if_neg hterm, if_neg hparen]
        rw [if_neg hparen, hread]
        exact hfail

/-- Where no more parentheses may be opened, it does not matter what would stand in them. -/
theorem primary_of_limit (inner : Walk Expression) : Performs 0 (Walk.primary inner) (readPrimary none) := by
  refine primary_of_parenthesized fun s t rest hs hrest hparen => ?_
  have hfull : s.openParentheses ≥ nestingLimit := Nat.sub_eq_zero_iff_le.1 hs
  have hfail : Agrees s (Reader.fail (.nesting nestingLimit) s.rest) ((Walk.fail _ : Walk Expression).on s) :=
    fail (.nesting nestingLimit) s hs
  have hread : readPrimary none (t :: rest) = .error ⟨.nesting nestingLimit, t :: rest⟩ := by
    simp only [readPrimary, hparen, isTerm, if_true, Bool.false_eq_true, if_false]
  rw [hrest] at hfail
  rw [hread]
  show Agrees s _ (on (if s.openParentheses ≥ nestingLimit then Walk.fail _ else _) s)
  rw [if_pos hfull]
  exact hfail

theorem primary {phrase : Phrase Expression} (h : Performs nesting inner phrase.read) :
    Performs (nesting + 1) (Walk.primary inner) (readPrimary (some phrase)) := by
  refine primary_of_parenthesized fun s t rest hs hrest hparen => ?_
  have hroom : ¬s.openParentheses ≥ nestingLimit := by
    rw [TokenStream.nesting] at hs
    omega
  have hinside : Performs (nesting + 1) _ (readParenthesized phrase) :=
    h.nested.bind fun e => (symbol .rightParen).bind fun _ => pure e
  have hagrees := hinside (s.moveTo rest) hs
  rw [rest_moveTo_of_cons hrest] at hagrees
  rw [readPrimary_of_parenthesis hparen]
  show Agrees s _ (on (if s.openParentheses ≥ nestingLimit then _ else advance >>= fun _ => _) s)
  rw [if_neg hroom]
  exact agrees_advance hrest hagrees

end Primary

theorem operand {inner : Walk Expression} {phrase? : Option (Phrase Expression)}
    (h : Performs nesting (Walk.primary inner) (readPrimary phrase?)) :
    Performs nesting (Walk.operand inner) (Parsing.operand phrase?).read := by
  let readSigns (signs : List Token) : Reader (List Token) := fun tokens =>
    .ok (signs ++ tokens.takeWhile (isPrefixSign ·.kind), tokens.dropWhile (isPrefixSign ·.kind))
  have hsigns : Performs nesting (Walk.loop isPrefixSign (fun signs t => return signs ++ [t]) []) (readSigns []) := by
    refine loop (fun signs t => .pure (signs ++ [t])) (fun signs tokens hend => ?_) (fun signs t rest ht => ?_) []
    · cases tokens with
      | nil => simp [readSigns]
      | cons t rest => simp [readSigns, hend t rfl]
    · show Except.ok _ = Except.ok _
      simp [ht]
  exact hsigns.bind fun signs => h.map (underSigns signs)

/-- As deep as the parentheses may go, a walk goes. -/
theorem expressionTo {depth : Nat} (hdepth : nesting ≤ depth) :
    Performs nesting (Walk.expressionTo depth) (Parsing.expression nesting).read := by
  induction depth generalizing nesting with
  | zero =>
    obtain rfl := Nat.le_zero.1 hdepth
    exact (primary_of_limit _).operand.climb _
  | succ depth ih =>
    cases nesting with
    | zero => exact (primary_of_limit _).operand.climb _
    | succ nesting => exact (primary (ih (Nat.le_of_succ_le_succ hdepth))).operand.climb _

end Performs

end Walk

end SqlShell
