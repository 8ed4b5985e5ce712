import SqlShell.Proofs.Parsing.Dispatch
import SqlShell.Proofs.Parsing.Grammar
import SqlShell.Proofs.Parsing.Kinds
/-!
# Reading known tokens

Where it is known which kinds of tokens a piece of text has, it is known what a reader makes of it, provided that
what follows cannot be part of it. `Takes followers p kinds a` says so: in front of a token of one of the given kinds,
or of the end, the reader takes just these kinds and gives `a`. There is one lemma for each way in which readers are
put together.
-/

namespace SqlShell

open Reader Parsing

/-- The tokens start with one of the kinds, or there are none. -/
def FollowedBy (followers : List Token.Kind) (tokens : List Token) : Prop :=
  ∀ t ∈ tokens.head?, t.kind ∈ followers

/-- In front of one of the kinds the reader takes tokens of these kinds and gives `a`. -/
def Takes {α : Type} (followers : List Token.Kind) (p : Reader α) (kinds : List Token.Kind) (a : α) : Prop :=
  ∀ rest, FollowedBy followers rest → p (kinds.map Token.ofKind ++ rest) = .ok (a, rest)

/-- The kinds of tokens of items with a sign between them. -/
def separated (sign : Symbol) (items : List (List Token.Kind)) : List Token.Kind :=
  [.symbol sign].intercalate items

/-- A keyword and what belongs to it, if there is any. -/
def clause (k : Keyword) : Option (List Token.Kind) → List Token.Kind
  | none => []
  | some kinds => .keyword k :: kinds

section Takes

variable {α β γ : Type} {before followers : List Token.Kind} {p : Reader α} {f : α → Reader β} {a : α} {b : β}
  {kind : Token.Kind} {kinds behind : List Token.Kind}

theorem followedBy_nil (followers : List Token.Kind) : FollowedBy followers [] := by
  simp [FollowedBy]

theorem followedBy_cons {t : Token} {rest : List Token} (ht : t.kind ∈ followers) :
    FollowedBy followers (t :: rest) := by
  intro u hu
  obtain rfl := Option.some.inj hu
  exact ht

theorem FollowedBy.mono {rest : List Token} (h : FollowedBy followers rest) (hsub : followers ⊆ before) :
    FollowedBy before rest :=
  fun t ht => hsub (h t ht)

theorem takes_pure (a : α) : Takes followers (pure a) [] a :=
  fun _ _ => rfl

theorem Takes.map (h : Takes followers p kinds a) (g : α → β) : Takes followers (g <$> p) kinds (g a) :=
  fun rest hrest => map_eq_ok.2 ⟨a, h rest hrest, rfl⟩

/-- A piece, and then what stands behind it, if anything does. -/
theorem Takes.bind (h : Takes before p kinds a) (h' : Takes followers (f a) behind b)
    (hbehind : ∀ kind ∈ behind.head?, kind ∈ before) (hfollowers : behind = [] → followers ⊆ before) :
    Takes followers (p >>= f) (kinds ++ behind) b := by
  intro rest hrest
  have hbefore : FollowedBy before (behind.map Token.ofKind ++ rest) := by
    cases behind with
    | nil => exact hrest.mono (hfollowers rfl)
    | cons kind behind => exact followedBy_cons (hbehind kind rfl)
  rw [List.map_append, List.append_assoc]
  exact bind_eq_ok.2 ⟨a, _, h _ hbefore, h' rest hrest⟩

/-- The last piece. -/
theorem Takes.bind_pure (h : Takes followers p kinds a) (g : α → β) :
    Takes followers (p >>= fun a => pure (g a)) kinds (g a) :=
  fun rest hrest => bind_eq_ok.2 ⟨a, rest, h rest hrest, rfl⟩

/-! ### Single tokens -/

theorem takes_accepted {accepts : Token.Kind → Bool} {expected : Expectation} (hkind : accepts kind = true) :
    Takes followers (expect accepts expected) [kind] (Token.ofKind kind) :=
  fun _ _ => expect_eq_ok.2 ⟨hkind, rfl⟩

/-- One token, whatever follows it, and then the rest. -/
theorem takes_expect {accepts : Token.Kind → Bool} {expected : Expectation} {g : Token → Reader β}
    (hkind : accepts kind = true) (h : Takes followers (g (Token.ofKind kind)) kinds b) :
    Takes followers (expect accepts expected >>= g) (kind :: kinds) b :=
  fun rest hrest => bind_eq_ok.2 ⟨_, _, expect_eq_ok.2 ⟨hkind, rfl⟩, h rest hrest⟩

theorem takes_kind {expected : Expectation} {g : Unit → Reader β} (h : Takes followers (g ()) kinds b) :
    Takes followers (((fun _ => ()) <$> expect (· = kind) expected) >>= g) (kind :: kinds) b := by
  intro rest hrest
  have htake : Takes followers (expect (· = kind) expected >>= fun _ => g ()) (kind :: kinds) b :=
    takes_expect (by simp) h
  obtain ⟨t, middle, ht, hg⟩ := bind_eq_ok.1 (htake rest hrest)
  exact bind_eq_ok.2 ⟨(), middle, map_eq_ok.2 ⟨t, ht, rfl⟩, hg⟩

theorem takes_keyword {k : Keyword} {g : Unit → Reader β} (h : Takes followers (g ()) kinds b) :
    Takes followers (keyword k >>= g) (.keyword k :: kinds) b :=
  takes_kind h

theorem takes_symbol {s : Symbol} {g : Unit → Reader β} (h : Takes followers (g ()) kinds b) :
    Takes followers (symbol s >>= g) (.symbol s :: kinds) b :=
  takes_kind h

theorem takes_take?_pos {accepts : Token.Kind → Bool} {g : Option Token → Reader β} (hkind : accepts kind = true)
    (h : Takes followers (g (some (Token.ofKind kind))) kinds b) :
    Takes followers (take? accepts >>= g) (kind :: kinds) b := by
  intro rest hrest
  have htake : take? accepts ((kind :: kinds).map Token.ofKind ++ rest) =
      .ok (some (Token.ofKind kind), kinds.map Token.ofKind ++ rest) :=
    if_pos hkind
  exact bind_eq_ok.2 ⟨_, _, htake, h rest hrest⟩

/-- What comes next is not accepted, be it part of the piece or behind it. -/
theorem takes_take?_neg {accepts : Token.Kind → Bool} {g : Option Token → Reader β}
    (hkinds : ∀ kind ∈ kinds.head?, accepts kind = false)
    (hfollowers : kinds = [] → ∀ kind ∈ followers, accepts kind = false) (h : Takes followers (g none) kinds b) :
    Takes followers (take? accepts >>= g) kinds b := by
  intro rest hrest
  have hnext : ∀ t ∈ (kinds.map Token.ofKind ++ rest).head?, ¬accepts t.kind = true := by
    intro t ht
    rw [Bool.not_eq_true]
    cases kinds with
    | nil => exact hfollowers rfl _ (hrest t ht)
    | cons kind kinds =>
      obtain rfl := Option.some.inj ht
      exact hkinds kind rfl
  have htake : take? accepts (kinds.map Token.ofKind ++ rest) = .ok (none, kinds.map Token.ofKind ++ rest) := by
    cases htokens : kinds.map Token.ofKind ++ rest with
    | nil => rfl
    | cons t tokens => exact if_neg (hnext t (by rw [htokens]; rfl))
  exact bind_eq_ok.2 ⟨_, _, htake, h rest hrest⟩

theorem takes_keyword?_pos {k : Keyword} {g : Bool → Reader β} (h : Takes followers (g true) kinds b) :
    Takes followers (keyword? k >>= g) (.keyword k :: kinds) b := by
  intro rest hrest
  have htake : Takes followers (take? (· = .keyword k) >>= fun t? => g t?.isSome) (.keyword k :: kinds) b :=
    takes_take?_pos (by simp) h
  obtain ⟨t?, middle, ht, hg⟩ := bind_eq_ok.1 (htake rest hrest)
  exact bind_eq_ok.2 ⟨_, middle, map_eq_ok.2 ⟨t?, ht, rfl⟩, hg⟩

theorem takes_keyword?_neg {k : Keyword} {g : Bool → Reader β} (hkinds : ∀ kind ∈ kinds.head?, kind ≠ .keyword k)
    (hfollowers : kinds = [] → .keyword k ∉ followers) (h : Takes followers (g false) kinds b) :
    Takes followers (keyword? k >>= g) kinds b := by
  intro rest hrest
  have htake : Takes followers (take? (· = .keyword k) >>= fun t? => g t?.isSome) kinds b := by
    refine takes_take?_neg (fun kind hkind => decide_eq_false (hkinds kind hkind)) (fun hnil kind hkind => ?_) h
    exact decide_eq_false fun heq => hfollowers hnil (heq ▸ hkind)
  obtain ⟨t?, middle, ht, hg⟩ := bind_eq_ok.1 (htake rest hrest)
  exact bind_eq_ok.2 ⟨_, middle, map_eq_ok.2 ⟨t?, ht, rfl⟩, hg⟩

/-! ### Clauses -/

theorem head?_clause {k : Keyword} {body : Option (List Token.Kind)} :
    ∀ kind ∈ (clause k body).head?, kind = .keyword k := by
  cases body <;> simp [clause]

/-- What stands behind a keyword, if the keyword is there. -/
theorem takes_clause {k : Keyword} {source : Option γ} {kindsOf : γ → List Token.Kind} {valueOf : γ → α}
    (hfollowers : .keyword k ∉ followers) (h : ∀ x ∈ source, Takes followers p (kindsOf x) (valueOf x)) :
    Takes followers (do if ← keyword? k then some <$> p else return none) (clause k (source.map kindsOf))
      (source.map valueOf) := by
  cases source with
  | none => exact takes_keyword?_neg (by simp [clause]) (fun _ => hfollowers) (takes_pure none)
  | some x => exact takes_keyword?_pos ((h x rfl).map some)

/-! ### Repetitions -/

theorem Takes.ne_nil {item : Phrase α} (h : Takes followers item.read kinds a) : kinds ≠ [] := by
  rintro rfl
  have hlength := (item.progresses (h [] (followedBy_nil followers))).2
  simp at hlength

/-- Items that commas follow, and in the end something else. -/
theorem takes_commaSeparated {item : Phrase α} {items : List γ} {kindsOf : γ → List Token.Kind} {valueOf : γ → α}
    (hne : items ≠ []) (hfollowers : .symbol .comma ∉ followers)
    (h : ∀ x ∈ items, Takes (.symbol .comma :: followers) item.read (kindsOf x) (valueOf x)) :
    Takes followers item.commaSeparated.read (separated .comma (items.map kindsOf)) (items.map valueOf) := by
  intro rest hrest
  have hcomma : ∀ t ∈ rest.head?, t.kind ≠ .symbol .comma := fun t ht heq => hfollowers (heq ▸ hrest t ht)
  show item.readCommaSeparated _ = _
  induction items with
  | nil => exact absurd rfl hne
  | cons x items ih =>
    obtain ⟨hx, hitems⟩ := List.forall_mem_cons.1 h
    cases items with
    | nil =>
      rw [List.map_singleton, separated, List.intercalate_singleton]
      exact Phrase.readCommaSeparated_of_last (hx rest (hrest.mono (List.subset_cons_self _ _))) hcomma
    | cons y items =>
      have hread := hx
        (Token.ofKind (.symbol .comma) :: ((separated .comma ((y :: items).map kindsOf)).map Token.ofKind ++ rest))
        (followedBy_cons List.mem_cons_self)
      have hitemsRead := Phrase.readCommaSeparated_of_comma hread rfl
      rw [ih (by simp) hitems] at hitemsRead
      rw [List.map_cons, List.map_cons, separated, List.intercalate_cons_cons, List.map_append, List.map_append,
        List.append_assoc, List.append_assoc]
      exact hitemsRead

/-- An expression, in front of anything but a binary operator. -/
theorem takes_expression {nesting : Nat} {e : Expression}
    (h : Derives nesting (.chain .disjunction) (kinds.map Token.ofKind) e)
    (hfollowers : ∀ kind ∈ followers, level? kind = none) : Takes followers (expression nesting).read kinds e := by
  intro rest hrest
  refine (expression_recognizes nesting _ _ _).2 ⟨_, rfl, h, fun t ht hgoes => ?_⟩
  obtain ⟨level, hlevel⟩ := goesOn_disjunction.1 hgoes
  simp [hfollowers t.kind (hrest t ht)] at hlevel

/-! ### Batches -/

theorem takes_statement {nesting : Nat} {k : Keyword} {body : Reader Statement} {s : Statement}
    (hbody : bodyOf? nesting (.keyword k) = some body) (h : Takes followers body kinds s) :
    Takes followers (statement nesting).read (.keyword k :: kinds) s :=
  fun rest hrest => statement_read_eq_ok.2 ⟨_, _, body, rfl, hbody, h rest hrest⟩

theorem readBatch_separated {nesting : Nat} {items : List γ} {kindsOf : γ → List Token.Kind} {valueOf : γ → Statement}
    (h : ∀ x ∈ items, Takes [.symbol .semicolon] (statement nesting).read (kindsOf x) (valueOf x)) :
    readBatch nesting ((separated .semicolon (items.map kindsOf)).map Token.ofKind) =
      ⟨items.map valueOf, [], none⟩ := by
  induction items with
  | nil => exact readBatch.eq_1 nesting
  | cons x items ih =>
    obtain ⟨hx, hitems⟩ := List.forall_mem_cons.1 h
    obtain ⟨kind, kinds, hkinds⟩ := List.exists_cons_of_ne_nil hx.ne_nil
    rw [hkinds] at hx
    cases items with
    | nil =>
      have hread := hx [] (followedBy_nil _)
      rw [List.append_nil] at hread
      rw [List.map_singleton, separated, List.intercalate_singleton, hkinds]
      exact readBatch_of_last hread
    | cons y items =>
      have hread := hx
        (Token.ofKind (.symbol .semicolon) :: (separated .semicolon ((y :: items).map kindsOf)).map Token.ofKind)
        (followedBy_cons List.mem_cons_self)
      have hbatch := readBatch_of_semicolon hread rfl
      rw [ih hitems] at hbatch
      rw [List.map_cons, List.map_cons, separated, List.intercalate_cons_cons, List.map_append, List.map_append,
        List.append_assoc, hkinds]
      exact hbatch

theorem parseKinds_separated {items : List γ} {kindsOf : γ → List Token.Kind} {valueOf : γ → Statement}
    (h : ∀ x ∈ items, Takes [.symbol .semicolon] (statement nestingLimit).read (kindsOf x) (valueOf x)) :
    parseKinds (separated .semicolon (items.map kindsOf)) = .ok (items.map valueOf) := by
  rw [parseKinds, parseTokens, readBatch_separated h]

/-- A semicolon may stand behind the last statement. -/
theorem parseKinds_semicolon {s : Statement}
    (h : Takes [.symbol .semicolon] (statement nestingLimit).read kinds s) :
    parseKinds (kinds ++ [.symbol .semicolon]) = .ok [s] := by
  obtain ⟨kind, kinds, rfl⟩ := List.exists_cons_of_ne_nil h.ne_nil
  have hread := h [Token.ofKind (.symbol .semicolon)] (followedBy_cons List.mem_cons_self)
  have hbatch := readBatch_of_semicolon hread rfl
  rw [readBatch] at hbatch
  rw [parseKinds, List.map_append]
  exact parseTokens_eq_ok.2 ⟨congrArg BatchReading.statements hbatch, congrArg BatchReading.failure hbatch⟩

end Takes

end SqlShell
