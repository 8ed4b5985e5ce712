import SqlShell.Proofs.Parsing.Takes
/-!
# One token of look-ahead

A reader sees what it takes and one token more. So what it makes of the front of a list stays the same if the rest is
exchanged behind the next token, and where it fails, the tokens up to there have some other continuation. Both together
are one property of readers, `Reader.Predictive`. It is relative to the kinds of tokens that stand behind the piece
when it is completed (`followers`) and to the kinds that a completed piece may start with (`heads`), and with these two
it is kept by `bind`: the heads of one reader have to be followers of the reader before it. Each reader of the grammar
has one lemma, in the order in which the readers are defined.
-/

namespace SqlShell

open Parsing

namespace Reader

variable {α β : Type} {heads before followers : List Token.Kind} {tokens taken more rest other : List Token}

/-- The second list starts with the token that the first one starts with, or with one of the kinds. -/
def SameAhead (followers : List Token.Kind) (rest other : List Token) : Prop :=
  other.head? = rest.head? ∨ FollowedBy followers other

/-- In front of one of the kinds, or of the end, the reader takes just these tokens and gives `a`. -/
def Accepts (followers : List Token.Kind) (p : Reader α) (taken : List Token) (a : α) : Prop :=
  ∀ rest, FollowedBy followers rest → p (taken ++ rest) = .ok (a, rest)

/-- The reader goes by the tokens that it takes and by one more, and every list that it fails on can be mended from
the offending token on. -/
structure Predictive (heads followers : List Token.Kind) (p : Reader α) : Prop where
  /-- A piece that has been read is read alike in front of the same token, or of a follower. -/
  reads : ∀ {tokens a rest}, p tokens = .ok (a, rest) →
    ∃ taken, tokens = taken ++ rest ∧ (∀ other, SameAhead followers rest other → p (taken ++ other) = .ok (a, other)) ∧
      (taken = [] → followers ⊆ heads)
  /-- A failure is the same whatever stands behind the offending token, and other tokens in its place avoid it. -/
  fails : ∀ {tokens f}, p tokens = .error f →
    ∃ taken, tokens = taken ++ f.rest ∧
      (∀ other, other.head? = f.rest.head? → p (taken ++ other) = .error ⟨f.expected, other⟩) ∧
      ∃ more a, Accepts followers p (taken ++ more) a
  /-- There is something to read. -/
  starts : ∃ more a, Accepts followers p more a ∧ FollowedBy heads more ∧ (more = [] → followers ⊆ heads)

/-! ### What comes next -/

theorem SameAhead.refl (followers : List Token.Kind) (rest : List Token) : SameAhead followers rest rest :=
  .inl rfl

/-- In front of other tokens what comes next is the first of these. -/
theorem SameAhead.append (h : SameAhead followers rest other) (hnil : taken = [] → followers ⊆ before) :
    SameAhead before (taken ++ rest) (taken ++ other) := by
  cases taken with
  | nil => exact h.imp id (·.mono (hnil rfl))
  | cons t taken => exact .inl rfl

theorem SameAhead.forall_head? {P : Token → Prop} (h : SameAhead followers rest other)
    (hrest : ∀ t ∈ rest.head?, P t) (hfollowers : ∀ t, t.kind ∈ followers → P t) : ∀ t ∈ other.head?, P t := by
  intro t ht
  rcases h with hsame | hfollowed
  · exact hrest t (hsame ▸ ht)
  · exact hfollowers t (hfollowed t ht)

theorem head?_append_of_eq (h : other.head? = rest.head?) : (taken ++ other).head? = (taken ++ rest).head? := by
  rw [List.head?_append, List.head?_append, h]

theorem FollowedBy.append (h : FollowedBy heads taken) (hrest : taken = [] → FollowedBy heads rest) :
    FollowedBy heads (taken ++ rest) := by
  cases taken with
  | nil => exact hrest rfl
  | cons t taken => exact h

/-! ### Putting readers together -/

theorem Accepts.bind {p : Reader α} {k : α → Reader β} {a : α} {b : β} (h : Accepts before p taken a)
    (hk : Accepts followers (k a) more b) (hmore : FollowedBy before more) (hnil : more = [] → followers ⊆ before) :
    Accepts followers (p >>= k) (taken ++ more) b := by
  intro rest hrest
  have hahead : FollowedBy before (more ++ rest) := FollowedBy.append hmore fun hempty => hrest.mono (hnil hempty)
  rw [List.append_assoc, bind_of_ok (h _ hahead), hk rest hrest]

/-- The name that stands in for missing names and expressions. -/
def placeholder : Token.Kind :=
  .identifier "x"

namespace Predictive

/-- The mended list starts as the other one did, or as a piece does. -/
theorem mends {p : Reader α} (h : Predictive heads followers p) {f : Failure} (hfails : p tokens = .error f) :
    ∃ taken, tokens = taken ++ f.rest ∧
      (∀ other, other.head? = f.rest.head? → p (taken ++ other) = .error ⟨f.expected, other⟩) ∧
      ∃ more a, Accepts followers p (taken ++ more) a ∧
        ∀ rest, FollowedBy followers rest → SameAhead heads tokens (taken ++ (more ++ rest)) := by
  obtain ⟨taken, rfl, hsame, more, a, hmore⟩ := h.fails hfails
  cases taken with
  | nil =>
    obtain ⟨more, a, hmore, hheads, hnil⟩ := h.starts
    have hopens (rest : List Token) (hrest : FollowedBy followers rest) : FollowedBy heads (more ++ rest) :=
      FollowedBy.append hheads fun hempty => hrest.mono (hnil hempty)
    exact ⟨[], rfl, hsame, more, a, hmore, fun rest hrest => .inr (hopens rest hrest)⟩
  | cons t taken => exact ⟨t :: taken, rfl, hsame, more, a, hmore, fun _ _ => .inl rfl⟩

theorem pure (followers : List Token.Kind) (a : α) : Predictive followers followers (pure a : Reader α) where
  reads h := by
    obtain ⟨rfl, rfl⟩ := pure_eq_ok.1 h
    exact ⟨[], rfl, fun _ _ => rfl, fun _ => List.Subset.refl _⟩
  fails h := nomatch h
  starts := ⟨[], a, fun _ _ => rfl, followedBy_nil _, fun _ => List.Subset.refl _⟩

theorem bind {p : Reader α} {k : α → Reader β} (hp : Predictive heads before p)
    (hk : ∀ a, Predictive before followers (k a)) : Predictive heads followers (p >>= k) where
  reads h := by
    obtain ⟨a, middle, ha, hb⟩ := bind_eq_ok.1 h
    obtain ⟨taken, rfl, hreads, hnil⟩ := hp.reads ha
    obtain ⟨more, rfl, hmore, hnil'⟩ := (hk a).reads hb
    refine ⟨taken ++ more, (List.append_assoc ..).symm, fun other hother => ?_, fun hempty => ?_⟩
    · rw [List.append_assoc, bind_of_ok (hreads _ (hother.append hnil')), hmore other hother]
    · obtain ⟨rfl, rfl⟩ := List.append_eq_nil_iff.1 hempty
      exact List.Subset.trans (hnil' rfl) (hnil rfl)
  fails {tokens f} h := by
    cases ha : p tokens with
    | error e =>
      obtain rfl := Except.error.inj ((bind_of_error ha).symm.trans h)
      obtain ⟨taken, rfl, hfails, more, a, hmore⟩ := hp.fails ha
      -- What mends the first piece is followed by anything that the second reader takes.
      obtain ⟨behind, b, hbehind, hheads, hnil⟩ := (hk a).starts
      refine ⟨taken, rfl, fun other hother => bind_of_error (hfails other hother), more ++ behind, b, ?_⟩
      rw [← List.append_assoc]
      exact hmore.bind hbehind hheads hnil
    | ok pair =>
      obtain ⟨a, middle⟩ := pair
      rw [bind_of_ok ha] at h
      obtain ⟨taken, rfl, hreads, -⟩ := hp.reads ha
      obtain ⟨more, rfl, hfails, behind, b, hbehind, hsame⟩ := (hk a).mends h
      refine ⟨taken ++ more, (List.append_assoc ..).symm, fun other hother => ?_, behind, b, fun rest hrest => ?_⟩
      · rw [List.append_assoc, bind_of_ok (hreads _ (.inl (head?_append_of_eq hother))), hfails other hother]
      · rw [List.append_assoc, List.append_assoc, bind_of_ok (hreads _ (hsame rest hrest)), ← List.append_assoc]
        exact hbehind rest hrest
  starts := by
    obtain ⟨first, a, hfirst, hheads, hnil⟩ := hp.starts
    obtain ⟨second, b, hsecond, hheads', hnil'⟩ := (hk a).starts
    refine ⟨first ++ second, b, hfirst.bind hsecond hheads' hnil', ?_, fun hempty => ?_⟩
    · exact FollowedBy.append hheads fun hempty => hheads'.mono (hnil hempty)
    · obtain ⟨rfl, rfl⟩ := List.append_eq_nil_iff.1 hempty
      exact List.Subset.trans (hnil' rfl) (hnil rfl)

theorem map {p : Reader α} (h : Predictive heads followers p) (g : α → β) : Predictive heads followers (g <$> p) := by
  rw [map_eq_pure_bind]
  exact h.bind fun a => .pure followers (g a)

/-! ### Single tokens -/

/-- What a reader does with a first token: it goes on behind it as some other reader, or it fails on it, whatever stands
behind it. -/
inductive GoesBy (followers : List Token.Kind) (p : Reader α) (t : Token) : Prop
  | reads {heads : List Token.Kind} {q : Reader α} (hq : Predictive heads followers q)
      (h : ∀ rest, p (t :: rest) = q rest)
  | fails {expected : Expectation} (h : ∀ rest, p (t :: rest) = .error ⟨expected, t :: rest⟩)

/-- A reader that takes a first token or fails on it, and that takes some of the kind. -/
theorem ofFirst {p q : Reader α} {kind : Token.Kind} {expected : Expectation} (hnil : p [] = .error ⟨expected, []⟩)
    (hcons : ∀ t, GoesBy followers p t) (hq : Predictive heads followers q)
    (hkind : ∀ rest, p (.ofKind kind :: rest) = q rest) : Predictive [kind] followers p := by
  obtain ⟨first, b, hfirst, -⟩ := hq.starts
  have hmend : Accepts followers p (.ofKind kind :: first) b := fun rest hrest => (hkind _).trans (hfirst rest hrest)
  refine ⟨fun {tokens a rest} h => ?_, fun {tokens f} h => ?_, _, b, hmend, ?_, by simp⟩
  · cases tokens with
    | nil => simp [hnil] at h
    | cons t tail =>
      rcases hcons t with ⟨hq, hsame⟩ | hfails
      · obtain ⟨taken, rfl, hreads, -⟩ := hq.reads ((hsame tail).symm.trans h)
        exact ⟨t :: taken, rfl, fun other hother => (hsame _).trans (hreads other hother), by simp⟩
      · simp [hfails] at h
  · cases tokens with
    | nil =>
      obtain rfl := Except.error.inj (hnil.symm.trans h)
      refine ⟨[], rfl, fun other hother => ?_, _, b, hmend⟩
      rw [List.head?_eq_none_iff.1 hother]
      exact hnil
    | cons t tail =>
      rcases hcons t with ⟨hq, hsame⟩ | hfails
      · obtain ⟨taken, rfl, hfails, more, a, hmore⟩ := hq.fails ((hsame tail).symm.trans h)
        exact ⟨t :: taken, rfl, fun other hother => (hsame _).trans (hfails other hother), more, a,
          fun rest hrest => (hsame _).trans (hmore rest hrest)⟩
      · obtain rfl := Except.error.inj ((hfails tail).symm.trans h)
        refine ⟨[], rfl, fun other hother => ?_, _, b, hmend⟩
        obtain ⟨tail', rfl⟩ := List.head?_eq_some_iff.1 hother
        exact hfails tail'
  · simp [FollowedBy, Token.ofKind]

theorem expect {accepts : Token.Kind → Bool} {kind : Token.Kind} (hkind : accepts kind = true)
    (followers : List Token.Kind) (expected : Expectation) :
    Predictive [kind] followers (expect accepts expected) := by
  have hread {t : Token} (ht : accepts t.kind = true) (rest : List Token) :
      Reader.expect accepts expected (t :: rest) = (Pure.pure t : Reader Token) rest :=
    expect_eq_ok.2 ⟨ht, rfl⟩
  refine ofFirst rfl (fun t => ?_) (.pure followers _) (hread hkind)
  by_cases ht : accepts t.kind = true
  · exact .reads (.pure followers t) (hread ht)
  · exact .fails fun _ => if_neg ht

theorem keyword (k : Keyword) (followers : List Token.Kind) : Predictive [.keyword k] followers (keyword k) :=
  (expect (by simp) followers _).map _

theorem symbol (s : Symbol) (followers : List Token.Kind) : Predictive [.symbol s] followers (symbol s) :=
  (expect (by simp) followers _).map _

theorem identifier (expected : Expectation) (followers : List Token.Kind) :
    Predictive [placeholder] followers (identifier expected) :=
  expect rfl followers expected

/-! ### Choices -/

theorem take?_of_head? {accepts : Token.Kind → Bool} (h : ∀ t ∈ tokens.head?, accepts t.kind = false) :
    Reader.take? accepts tokens = .ok (none, tokens) := by
  cases tokens with
  | nil => rfl
  | cons t tail =>
    rw [Reader.take?, h t rfl]
    rfl

/-- A choice that is made on the next token. The accepted ones are no heads of what is read otherwise. -/
theorem take? {accepts : Token.Kind → Bool} {g : Option Token → Reader β} {heads' : List Token.Kind}
    (hsome : ∀ t, accepts t.kind = true → Predictive heads' followers (g (some t)))
    (hnone : Predictive heads followers (g none)) (hheads : ∀ kind ∈ heads, accepts kind = false) :
    Predictive heads followers (take? accepts >>= g) := by
  have htake {t : Token} {tokens : List Token} (h : accepts t.kind = true) :
      (Reader.take? accepts >>= g) (t :: tokens) = g (some t) tokens :=
    bind_of_ok (if_pos h)
  have hskip {tokens other : List Token} (h : SameAhead heads tokens other)
      (htokens : ∀ t ∈ tokens.head?, accepts t.kind = false) : (Reader.take? accepts >>= g) other = g none other :=
    bind_of_ok (take?_of_head? (h.forall_head? htokens fun t ht => hheads t.kind ht))
  have hcases (tokens : List Token) :
      (∃ t tail, tokens = t :: tail ∧ accepts t.kind = true) ∨ ∀ t ∈ tokens.head?, accepts t.kind = false := by
    cases tokens with
    | nil => simp
    | cons t tail => cases haccepts : accepts t.kind <;> simp [haccepts]
  refine ⟨fun {tokens a rest} h => ?_, fun {tokens f} h => ?_, ?_⟩
  · rcases hcases tokens with ⟨t, tail, rfl, haccepts⟩ | hnot
    · rw [htake haccepts] at h
      obtain ⟨taken, rfl, hreads, -⟩ := (hsome t haccepts).reads h
      exact ⟨t :: taken, rfl, fun other hother => (htake haccepts).trans (hreads other hother), by simp⟩
    · rw [hskip (.refl _ _) hnot] at h
      obtain ⟨taken, rfl, hreads, hnil⟩ := hnone.reads h
      exact ⟨taken, rfl, fun other hother => (hskip (hother.append hnil) hnot).trans (hreads other hother), hnil⟩
  · rcases hcases tokens with ⟨t, tail, rfl, haccepts⟩ | hnot
    · rw [htake haccepts] at h
      obtain ⟨taken, rfl, hfails, more, a, hmore⟩ := (hsome t haccepts).fails h
      exact ⟨t :: taken, rfl, fun other hother => (htake haccepts).trans (hfails other hother), more, a,
        fun rest hrest => (htake haccepts).trans (hmore rest hrest)⟩
    · rw [hskip (.refl _ _) hnot] at h
      obtain ⟨taken, rfl, hfails, more, a, hmore, hsame⟩ := hnone.mends h
      refine ⟨taken, rfl, fun other hother => ?_, more, a, fun rest hrest => ?_⟩
      · exact (hskip (.inl (head?_append_of_eq hother)) hnot).trans (hfails other hother)
      · rw [List.append_assoc, hskip (hsame rest hrest) hnot, ← List.append_assoc]
        exact hmore rest hrest
  · obtain ⟨more, a, hmore, hopens, hnil⟩ := hnone.starts
    refine ⟨more, a, fun rest hrest => ?_, hopens, hnil⟩
    have hopen : FollowedBy heads (more ++ rest) := FollowedBy.append hopens fun hempty => hrest.mono (hnil hempty)
    have hnothing : ∀ t ∈ ([] : List Token).head?, accepts t.kind = false := by simp
    rw [hskip (.inr hopen) hnothing, hmore rest hrest]

theorem keyword? {k : Keyword} {g : Bool → Reader β} {heads' : List Token.Kind}
    (htrue : Predictive heads' followers (g true)) (hfalse : Predictive heads followers (g false))
    (hheads : .keyword k ∉ heads) : Predictive heads followers (keyword? k >>= g) := by
  rw [Reader.keyword?, bind_map_left]
  exact take? (fun _ _ => htrue) hfalse fun kind hkind => decide_eq_false fun heq => hheads (heq ▸ hkind)

/-- A clause that a keyword of its own introduces. -/
theorem clause {k : Keyword} {p : Reader α} (hp : Predictive heads followers p) (hk : .keyword k ∉ followers) :
    Predictive followers followers (do if ← Reader.keyword? k then some <$> p else return none) :=
  keyword? (hp.map some) (.pure followers none) hk

/-! ### Repetitions -/

open Phrase

section Repetitions

variable (item : Phrase α) (hitem : Predictive heads followers item.read) (hcomma : .symbol .comma ∉ followers)

include hcomma in
theorem ne_comma_of_followedBy (h : FollowedBy followers rest) : ∀ t ∈ rest.head?, t.kind ≠ .symbol .comma :=
  fun t ht heq => hcomma (heq ▸ h t ht)

include hitem hcomma in
/-- An item that no comma follows is the last one in front of every follower. -/
theorem reads_last {a : α} (ha : item.read tokens = .ok (a, rest)) (hrest : ∀ t ∈ rest.head?, t.kind ≠ .symbol .comma) :
    ∃ taken, tokens = taken ++ rest ∧
      (∀ other, SameAhead followers rest other → item.readCommaSeparated (taken ++ other) = .ok ([a], other)) ∧
      (taken = [] → followers ⊆ heads) := by
  obtain ⟨taken, rfl, hreads, hnil⟩ := hitem.reads ha
  refine ⟨taken, rfl, fun other hother => readCommaSeparated_of_last (hreads other hother) ?_, hnil⟩
  exact hother.forall_head? hrest fun t ht heq => hcomma (heq ▸ ht)

include hitem hcomma in
theorem commaSeparated : Predictive heads followers item.commaSeparated.read where
  reads {tokens items rest} hread := by
    change item.readCommaSeparated tokens = _ at hread
    show ∃ taken, tokens = taken ++ rest ∧
      (∀ other, SameAhead followers rest other → item.readCommaSeparated (taken ++ other) = .ok (items, other)) ∧ _
    fun_induction readCommaSeparated item tokens generalizing items rest with
    | case1 => simp at hread
    | case2 tokens a ha =>
      obtain ⟨rfl, rfl⟩ := Prod.mk.inj (Except.ok.inj hread)
      exact reads_last item hitem hcomma ha (by simp)
    | case3 => simp at hread
    | case4 tokens a t tail ha ht items after hitems ih =>
      obtain ⟨rfl, rfl⟩ := Prod.mk.inj (Except.ok.inj hread)
      obtain ⟨first, rfl, hfirst, -⟩ := hitem.reads ha
      obtain ⟨taken, rfl, hreads, -⟩ := ih hitems
      refine ⟨first ++ t :: taken, by simp, fun other hother => ?_, by simp⟩
      have hmore := readCommaSeparated_of_comma (hfirst (t :: (taken ++ other)) (.inl rfl)) ht
      rwa [hreads other hother, ← List.cons_append, ← List.append_assoc] at hmore
    | case5 tokens a t tail ha ht =>
      obtain ⟨rfl, rfl⟩ := Prod.mk.inj (Except.ok.inj hread)
      exact reads_last item hitem hcomma ha (by simpa using ht)
  fails {tokens f} hread := by
    change item.readCommaSeparated tokens = _ at hread
    show ∃ taken, tokens = taken ++ f.rest ∧
      (∀ other, _ → item.readCommaSeparated (taken ++ other) = .error ⟨f.expected, other⟩) ∧
        ∃ more items, ∀ rest, _ → item.readCommaSeparated (taken ++ more ++ rest) = .ok (items, rest)
    fun_induction readCommaSeparated item tokens generalizing f with
    | case1 tokens e he =>
      obtain rfl := Except.error.inj hread
      obtain ⟨taken, rfl, hfails, more, a, hmore⟩ := hitem.fails he
      exact ⟨taken, rfl, fun other hother => readCommaSeparated_of_error (hfails other hother), more, [a],
        fun rest hrest => readCommaSeparated_of_last (hmore rest hrest) (ne_comma_of_followedBy hcomma hrest)⟩
    | case2 => simp at hread
    | case3 tokens a t tail ha ht e he ih =>
      obtain rfl := Except.error.inj hread
      obtain ⟨first, rfl, hfirst, -⟩ := hitem.reads ha
      obtain ⟨taken, rfl, hfails, more, items, hmore⟩ := ih he
      have hnext (behind : List Token) := readCommaSeparated_of_comma (hfirst (t :: behind) (.inl rfl)) ht
      refine ⟨first ++ t :: taken, by simp, fun other hother => ?_, more, a :: items, fun rest hrest => ?_⟩
      · rw [List.append_assoc, List.cons_append, hnext, hfails other hother]
        rfl
      · rw [List.append_assoc, List.append_assoc, List.cons_append, hnext, ← List.append_assoc, hmore rest hrest]
        rfl
    | case4 => simp at hread
    | case5 => simp at hread
  starts := by
    obtain ⟨more, a, hmore, hheads, hnil⟩ := hitem.starts
    exact ⟨more, [a], fun rest hrest => readCommaSeparated_of_last (hmore rest hrest)
      (ne_comma_of_followedBy hcomma hrest), hheads, hnil⟩

end Repetitions

section Joined

variable {right? : Token.Kind → Option (Phrase Expression)}
  (hright : ∀ kind operand, right? kind = some operand → Predictive heads followers operand.read)
  (hfollowers : ∀ kind ∈ followers, right? kind = none)

include hright hfollowers

/-- What stands behind the first operand may be nothing at all. -/
theorem readJoined (left : Expression) : Predictive followers followers (readJoined right? left) where
  reads {tokens e rest} hread := by
    have hend {left : Expression} {rest other : List Token} (hother : SameAhead followers rest other)
        (hrest : ∀ t ∈ rest.head?, right? t.kind = none) : Phrase.readJoined right? left other = .ok (left, other) :=
      readJoined_of_end (hother.forall_head? hrest fun t ht => hfollowers t.kind ht)
    fun_induction Phrase.readJoined right? left tokens generalizing e rest with
    | case1 left =>
      obtain ⟨rfl, rfl⟩ := Prod.mk.inj (Except.ok.inj hread)
      exact ⟨[], rfl, fun other hother => hend hother (by simp), fun _ => List.Subset.refl _⟩
    | case2 left t tail ht =>
      obtain ⟨rfl, rfl⟩ := Prod.mk.inj (Except.ok.inj hread)
      exact ⟨[], rfl, fun other hother => hend hother (by simpa using ht), fun _ => List.Subset.refl _⟩
    | case3 => simp at hread
    | case4 left t tail operand ht right after hoperand ih =>
      obtain ⟨first, rfl, hfirst, -⟩ := (hright _ _ ht).reads hoperand
      obtain ⟨taken, rfl, hreads, hnil⟩ := ih hread
      refine ⟨t :: (first ++ taken), by simp, fun other hother => ?_, by simp⟩
      rw [List.cons_append, List.append_assoc]
      exact (readJoined_of_operand ht (hfirst _ (hother.append hnil))).trans (hreads other hother)
  fails {tokens f} hread := by
    have hend {left : Expression} {rest : List Token} (hrest : FollowedBy followers rest) :
        Phrase.readJoined right? left rest = .ok (left, rest) :=
      readJoined_of_end fun t ht => hfollowers t.kind (hrest t ht)
    fun_induction Phrase.readJoined right? left tokens with
    | case1 => simp at hread
    | case2 => simp at hread
    | case3 left t tail operand ht e he =>
      obtain rfl := Except.error.inj hread
      obtain ⟨taken, rfl, hfails, more, right, hmore⟩ := (hright _ _ ht).fails he
      exact ⟨t :: taken, rfl, fun other hother => readJoined_of_error ht (hfails other hother), more, _,
        fun rest hrest => (readJoined_of_operand ht (hmore rest hrest)).trans (hend hrest)⟩
    | case4 left t tail operand ht right after hoperand ih =>
      obtain ⟨first, rfl, hfirst, -⟩ := (hright _ _ ht).reads hoperand
      obtain ⟨taken, rfl, hfails, more, e, hmore⟩ := ih hread
      refine ⟨t :: (first ++ taken), by simp, fun other hother => ?_, ?_⟩
      · rw [List.cons_append, List.append_assoc]
        exact (readJoined_of_operand ht (hfirst _ (.inl (head?_append_of_eq hother)))).trans (hfails other hother)
      · -- If the rest fails on its first token, the operand may just as well be the last one. Otherwise that token stays.
        cases taken with
        | nil =>
          refine ⟨[], .binary t left right, fun rest hrest => ?_⟩
          rw [List.append_nil, List.append_nil, List.cons_append]
          exact (readJoined_of_operand ht (hfirst rest (.inr hrest))).trans (hend hrest)
        | cons u taken =>
          refine ⟨more, e, fun rest hrest => ?_⟩
          have hread := hfirst (u :: taken ++ more ++ rest) (.inl rfl)
          have hshape : t :: (first ++ u :: taken) ++ more ++ rest = t :: (first ++ (u :: taken ++ more ++ rest)) := by
            simp
          rw [hshape]
          exact (readJoined_of_operand ht hread).trans (hmore rest hrest)
  starts := ⟨[], left, fun _ hrest => readJoined_of_end fun t ht => hfollowers t.kind (hrest t ht), followedBy_nil _,
    fun _ => List.Subset.refl _⟩

theorem joined {first : Phrase Expression} (hfirst : Predictive heads followers first.read) :
    Predictive heads followers (first.joined right?).read :=
  hfirst.bind (readJoined hright hfollowers)

end Joined

end Predictive

end Reader

end SqlShell
