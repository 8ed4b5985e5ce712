import SqlShell.Proofs.Execution.Steps
import SqlShell.Proofs.Parsing.StatementWalks
/-!
# Going back and moving on

A statement or an expression that cannot be read leaves the stream as it was, and one that is read moves it on
(`TokenStream.SettlesTo`). The keyword alone says whether a statement reader gives anything, so that of the six at most
one does, and the order in which they are tried does not matter (`Parsing.firstOf_perm`). Where a batch fails, the stream
is left behind the statements that it could read (`TokenStream.Passes`).
-/

namespace SqlShell

open Parsing

/-! ### Readers that wait for a keyword -/

namespace Parsing

variable {α : Type} {nesting : Nat} {tokens : List Token}

/-- Unless the keyword comes next, the reader gives nothing and takes nothing. -/
def OnlyAfter (k : Keyword) (p : Reader (Option α)) : Prop :=
  ∀ tokens : List Token, (∀ t ∈ tokens.head?, t.kind ≠ .keyword k) → p tokens = .ok (none, tokens)

theorem onlyAfter_afterKeyword (k : Keyword) (body : Reader α) : OnlyAfter k (afterKeyword k body) := by
  intro tokens h
  cases tokens with
  | nil => rfl
  | cons t rest => rw [afterKeyword_cons, if_neg (h t rfl)]

theorem OnlyAfter.map {β : Type} {k : Keyword} {p : Reader (Option α)} (h : OnlyAfter k p) (f : α → β) :
    OnlyAfter k (Option.map f <$> p) := by
  intro tokens htokens
  show Except.bind (p tokens) _ = _
  rw [h tokens htokens]
  rfl

theorem statementReaders_onlyAfter (nesting : Nat) :
    List.Forall₂ OnlyAfter [.select, .insert, .update, .delete, .create, .drop] (statementReaders nesting) :=
  .cons ((onlyAfter_afterKeyword _ _).map _) <| .cons ((onlyAfter_afterKeyword _ _).map _) <|
    .cons ((onlyAfter_afterKeyword _ _).map _) <| .cons ((onlyAfter_afterKeyword _ _).map _) <|
      .cons ((onlyAfter_afterKeyword _ _).map _) <| .cons ((onlyAfter_afterKeyword _ _).map _) .nil

/-- Of two readers that wait for different keywords, one gives nothing. -/
theorem pairwise_of_onlyAfter {keywords : List Keyword} {readers : List (Reader (Option α))}
    (h : List.Forall₂ OnlyAfter keywords readers) (hnodup : keywords.Nodup) (tokens : List Token) :
    readers.Pairwise fun p q => p tokens = .ok (none, tokens) ∨ q tokens = .ok (none, tokens) := by
  induction h with
  | nil => exact .nil
  | @cons k p keywords readers hp hrest ih =>
    obtain ⟨hfresh, hnodup⟩ := List.nodup_cons.1 hnodup
    refine .cons (fun q hq => ?_) (ih hnodup)
    obtain ⟨other, hother, hq⟩ := exists_of_forall₂_of_mem hrest hq
    by_cases hkind : ∀ t ∈ tokens.head?, t.kind ≠ .keyword k
    · exact .inl (hp tokens hkind)
    · refine .inr (hq tokens fun t ht hkind' => hkind fun u hu hu' => hfresh ?_)
      obtain rfl := Option.some.inj (ht.symm.trans hu)
      obtain rfl := Token.Kind.keyword.inj (hu'.symm.trans hkind')
      exact hother

theorem firstOf_congr {expected : Expectation} {p : Reader (Option α)} (hp : Attempts p)
    {readers readers' : List (Reader (Option α))}
    (h : firstOf expected readers tokens = firstOf expected readers' tokens) :
    firstOf expected (p :: readers) tokens = firstOf expected (p :: readers') tokens := by
  rw [Walk.firstOf_eq, Walk.firstOf_eq]
  rcases hread : p tokens with failure | ⟨_ | a, rest⟩
  · rfl
  · obtain rfl := (hp hread).1 rfl
    exact h
  · rfl

theorem firstOf_of_none {expected : Expectation} {p : Reader (Option α)} (hp : p tokens = .ok (none, tokens))
    (readers : List (Reader (Option α))) :
    firstOf expected (p :: readers) tokens = firstOf expected readers tokens := by
  rw [Walk.firstOf_eq, hp]

/-- Readers of which at most one gives anything can be tried in any order. -/
theorem firstOf_perm {expected : Expectation} {readers readers' : List (Reader (Option α))}
    (hperm : readers.Perm readers')
    (hone : readers.Pairwise fun p q => p tokens = .ok (none, tokens) ∨ q tokens = .ok (none, tokens))
    (hattempt : ∀ p ∈ readers, Attempts p) :
    firstOf expected readers tokens = firstOf expected readers' tokens := by
  induction hperm with
  | nil => rfl
  | @cons p readers readers' _ ih =>
    obtain ⟨hp, hattempt⟩ := List.forall_mem_cons.1 hattempt
    exact firstOf_congr hp (ih (List.pairwise_cons.1 hone).2 hattempt)
  | swap p q readers =>
    obtain ⟨hq, hattempt⟩ := List.forall_mem_cons.1 hattempt
    obtain ⟨hp, -⟩ := List.forall_mem_cons.1 hattempt
    rcases (List.pairwise_cons.1 hone).1 p List.mem_cons_self with hnone | hnone
    · exact (firstOf_of_none hnone _).trans (firstOf_congr hp (firstOf_of_none hnone readers).symm)
    · exact (firstOf_congr hq (firstOf_of_none hnone readers)).trans (firstOf_of_none hnone _).symm
  | trans hfirst _ ih ih' =>
    have hone' := (hfirst.pairwise_iff Or.symm).1 hone
    exact (ih hone hattempt).trans (ih' hone' fun p hp => hattempt p (hfirst.mem_iff.2 hp))

end Parsing

namespace TokenStream

variable {α : Type} {s after : TokenStream}

/-! ### One reading -/

/-- The tokens are the same, and as many parentheses are open. The place is the same too unless something was given; then
it has moved on, but not past the last token. -/
structure SettlesTo (s : TokenStream) (given : Bool) (after : TokenStream) : Prop where
  tokens_eq : after.tokens = s.tokens
  openParentheses_eq : after.openParentheses = s.openParentheses
  back : given = false → after.taken = s.taken
  on : given = true → s.taken < after.taken ∧ after.taken ≤ s.tokens.length

theorem settlesTo_self (s : TokenStream) : s.SettlesTo false s :=
  ⟨rfl, rfl, fun _ => rfl, nofun⟩

theorem settlesTo_moveTo {rest : List Token} (hlt : rest.length < s.rest.length) :
    s.SettlesTo true (s.moveTo rest) := by
  refine ⟨rfl, rfl, nofun, fun _ => ?_⟩
  have hrest : s.rest.length = s.tokens.length - s.taken := List.length_drop
  have hmoved : (s.moveTo rest).taken = s.taken + (s.rest.length - rest.length) := rfl
  omega

theorem settlesTo_run {reader : Reader α} (h : reader.Progresses) :
    s.SettlesTo (s.run reader).1.isOk (s.run reader).2 := by
  rw [run]
  cases hread : reader s.rest with
  | error failure => exact settlesTo_self s
  | ok pair => exact settlesTo_moveTo (h hread).2

theorem settlesTo_run_of_attempts {reader : Reader (Option α)} (h : Attempts reader) :
    s.SettlesTo (Walk.given (s.run reader).1) (s.run reader).2 := by
  rw [run]
  rcases hread : reader s.rest with failure | ⟨_ | a, rest⟩
  · exact settlesTo_self s
  · obtain rfl := (h hread).1 rfl
    show s.SettlesTo false (s.moveTo s.rest)
    rw [moveTo_rest]
    exact settlesTo_self s
  · exact settlesTo_moveTo ((h hread).2 (by simp)).2

theorem run_afterKeyword_eq_none {k : Keyword} {body : Reader α} :
    (s.run (afterKeyword k body)).1 = .ok none ↔ ∀ t ∈ s.tokens[s.taken]?, t.kind ≠ .keyword k := by
  rw [current?_eq]
  constructor
  · intro h t ht hkind
    obtain ⟨rest, hrest⟩ := List.head?_eq_some_iff.1 ht
    obtain ⟨after, hread, -⟩ := run_eq_ok.1 (Prod.ext h rfl)
    rw [hrest, afterKeyword_cons, if_pos hkind] at hread
    obtain ⟨a, -, hnone⟩ := Reader.map_eq_ok.1 hread
    cases hnone
  · intro h
    rw [run, onlyAfter_afterKeyword k body s.rest h]

/-- What is asked of the walk over a statement that starts with a keyword, given what its reader comes to. -/
structure StatementContract (s : TokenStream) (k : Keyword) (walk : Walk (Option α))
    (result : Except ParseError (Option α) × TokenStream) : Prop where
  same : walk.on s = result
  settles : s.SettlesTo (Walk.given result.1) result.2
  none_iff : result.1 = .ok none ↔ ∀ t ∈ s.tokens[s.taken]?, t.kind ≠ .keyword k

theorem statementContract {k : Keyword} {walk : Walk (Option α)} {body : Reader α}
    (hsame : walk.on s = s.run (afterKeyword k body)) (hfront : body.FromFront) :
    s.StatementContract k walk (s.run (afterKeyword k body)) :=
  ⟨hsame, settlesTo_run_of_attempts (afterKeyword_attempts hfront), run_afterKeyword_eq_none⟩

/-! ### Batches -/

/-- Statements, each with a semicolon behind it, lead from one place to the other. -/
inductive Passes : TokenStream → TokenStream → Prop
  | none (s : TokenStream) : Passes s s
  | statement {s middle last : TokenStream} {x : Statement} {t : Token} (hread : s.statement = (.ok x, middle))
      (ht : middle.tokens[middle.taken]? = some t) (hsemicolon : t.kind = .symbol .semicolon)
      (hrest : Passes { middle with taken := middle.taken + 1 } last) : Passes s last

/-- A batch stops at a place: a statement that starts there fails, or one that has ended there has no semicolon behind
it. -/
inductive StopsAt (last : TokenStream) (e : ParseError) : TokenStream → Prop
  | statement (hread : last.statement = (.error e, last)) : StopsAt last e last
  | semicolon {after : TokenStream} {x : Statement} {t : Token} (hread : last.statement = (.ok x, after))
      (ht : after.tokens[after.taken]? = some t) (hkind : t.kind ≠ .symbol .semicolon)
      (he : e = ⟨t.location, .statementEnd⟩) : StopsAt last e after

section

variable {nesting : Nat} {tokens rest : List Token} {f : Failure} {x : Statement} (hs : s.nesting = nesting)
  (htokens : s.rest = tokens)

include hs htokens

theorem statement_of_error (h : (Parsing.statement nesting).read tokens = .error f) :
    s.statement = (.error (f.toParseError s.tokens), s) := by
  subst hs htokens
  rw [statement, run, h]

theorem statement_of_ok (h : (Parsing.statement nesting).read tokens = .ok (x, rest)) :
    s.statement = (.ok x, s.moveTo rest) ∧ (s.moveTo rest).rest = rest := by
  subst hs htokens
  exact ⟨by rw [statement, run, h], rest_moveTo ((Parsing.statement s.nesting).progresses h).1⟩

end

/-- The induction follows the batch, whose rest is the place where it stops. -/
theorem passes_of_failure {nesting : Nat} {tokens : List Token} {f : Failure}
    (hfailure : (readBatch nesting tokens).failure = some f) (s : TokenStream) (hs : s.nesting = nesting)
    (htokens : s.rest = tokens) :
    ∃ last, Passes s last ∧ StopsAt last (f.toParseError s.tokens) (s.moveTo (readBatch nesting tokens).rest) := by
  revert s
  fun_induction readBatch nesting tokens with
  | case1 => cases hfailure
  | case2 t tokens f' hread =>
    intro s hs htokens
    obtain rfl := Option.some.inj hfailure
    have hstay : s.moveTo (t :: tokens) = s := htokens ▸ moveTo_rest
    refine ⟨s, .none s, ?_⟩
    rw [hstay]
    exact .statement (statement_of_error hs htokens hread)
  | case3 => cases hfailure
  | case4 t tokens x u rest hread hsemicolon batch ih =>
    intro s hs htokens
    obtain ⟨hstatement, hnext⟩ := statement_of_ok hs htokens hread
    have hfront : u :: rest <:+ s.rest := htokens ▸ ((Parsing.statement nesting).progresses hread).1
    have htail := (List.suffix_cons u rest).trans hfront
    have hmoved : { s.moveTo (u :: rest) with taken := (s.moveTo (u :: rest)).taken + 1 } = s.moveTo rest := by
      rw [← moveTo_moveTo hfront (List.suffix_cons u rest)]
      exact (moveTo_of_append (show (s.moveTo (u :: rest)).rest = [u] ++ rest from hnext)).symm
    have hcurrent : (s.moveTo (u :: rest)).tokens[(s.moveTo (u :: rest)).taken]? = some u := by
      rw [current?_eq, hnext, List.head?_cons]
    obtain ⟨last, hpasses, hstops⟩ := ih hfailure (s.moveTo rest) hs (rest_moveTo htail)
    rw [moveTo_moveTo htail (Walk.rest_suffix_readBatch rest)] at hstops
    exact ⟨last, .statement hstatement hcurrent hsemicolon (hmoved ▸ hpasses), hstops⟩
  | case5 t tokens x u rest hread hsemicolon =>
    intro s hs htokens
    obtain rfl := Option.some.inj hfailure
    obtain ⟨hstatement, hnext⟩ := statement_of_ok hs htokens hread
    have hcurrent : (s.moveTo (u :: rest)).tokens[(s.moveTo (u :: rest)).taken]? = some u := by
      rw [current?_eq, hnext, List.head?_cons]
    exact ⟨s, .none s, .semicolon hstatement hcurrent hsemicolon rfl⟩

theorem passes_of_statements_eq_error {e : ParseError} (h : s.statements = (.error e, after)) :
    ∃ last, Passes s last ∧ StopsAt last e after := by
  rw [statements] at h
  cases hfailure : (readBatch s.nesting s.rest).failure with
  | none =>
    simp only [hfailure] at h
    cases (Prod.mk.inj h).1
  | some f =>
    simp only [hfailure] at h
    obtain ⟨he, rfl⟩ := Prod.mk.inj h
    obtain rfl := Except.error.inj he
    exact passes_of_failure hfailure s rfl rfl

/-! ### The six statements -/

theorem pairwise_of_forall₂ {β γ : Type} {R : β → γ → Prop} {P : γ → γ → Prop} {Q : β → β → Prop} {bs : List β}
    {cs : List γ} (h : List.Forall₂ R bs cs) (hcs : cs.Pairwise P)
    (hrelated : ∀ b b' c c', R b c → R b' c' → P c c' → Q b b') : bs.Pairwise Q := by
  induction h with
  | nil => exact .nil
  | @cons b c bs cs hbc hrest ih =>
    obtain ⟨hfirst, hcs⟩ := List.pairwise_cons.1 hcs
    refine .cons (fun b' hb' => ?_) (ih hcs)
    obtain ⟨c', hc', hbc'⟩ := exists_of_forall₂_of_mem hrest.flip hb'
    exact hrelated b b' c c' hbc hbc' (hfirst c' hc')

theorem pairwise_statementReaders (nesting : Nat) (tokens : List Token) :
    (statementReaders nesting).Pairwise fun p q => p tokens = .ok (none, tokens) ∨ q tokens = .ok (none, tokens) :=
  pairwise_of_onlyAfter (statementReaders_onlyAfter nesting) (by decide) tokens

theorem pairwise_statementWalks (s : TokenStream) :
    Walk.statementWalks.Pairwise fun v w => (v.on s).1 = .ok none ∨ (w.on s).1 = .ok none := by
  have hnone {w : Walk (Option Statement)} {p : Reader (Option Statement)} (hw : w.Runs s.nesting p)
      (hp : p s.rest = .ok (none, s.rest)) : (w.on s).1 = .ok none := by
    rw [hw s rfl, run, hp]
  exact pairwise_of_forall₂ Walk.runs_statementWalks (pairwise_statementReaders s.nesting s.rest)
    fun v w p q hv hw => Or.imp (hnone hv) (hnone hw)

theorem firstOf_on_perm {walks : List (Walk (Option Statement))} (hperm : walks.Perm Walk.statementWalks)
    (s : TokenStream) : (Walk.firstOf .statement walks).on s = s.statement := by
  obtain ⟨readers, hruns, hreaders⟩ := List.perm_comp_forall₂ hperm Walk.runs_statementWalks
  have hattempt : ∀ p ∈ readers, Attempts p := fun p hp =>
    statementReaders_attempt s.nesting p (hreaders.mem_iff.1 hp)
  have hread : firstOf .statement readers s.rest = (Parsing.statement s.nesting).read s.rest :=
    (firstOf_perm hreaders.symm (pairwise_statementReaders s.nesting s.rest)
      (statementReaders_attempt s.nesting)).symm
  rw [Walk.runs_firstOf hruns hattempt s rfl, statement, run, run, hread]

/-- Reading in place does what the readers do. A statement or an expression that cannot be read leaves no trace, and what
is read moves the place on. A statement reader gives nothing exactly if its keyword does not come next, so that of the
six at most one gives anything, whatever their order. A batch that fails leaves the place behind its last statement, and
behind the semicolon if there is one. -/
theorem reading_goes_back_or_on (s : TokenStream) :
    s.StatementContract .select Walk.select? s.select? ∧ s.StatementContract .insert Walk.insert? s.insert? ∧
    s.StatementContract .update Walk.update? s.update? ∧ s.StatementContract .delete Walk.delete? s.delete? ∧
    s.StatementContract .create Walk.createTable? s.createTable? ∧
    s.StatementContract .drop Walk.dropTable? s.dropTable? ∧
    (Walk.statement.on s = s.statement ∧ s.SettlesTo s.statement.1.isOk s.statement.2) ∧
    (Walk.expression.on s = s.expression ∧ s.SettlesTo s.expression.1.isOk s.expression.2) ∧
    (Walk.statementWalks.Pairwise fun v w => (v.on s).1 = .ok none ∨ (w.on s).1 = .ok none) ∧
    (∀ walks, walks.Perm Walk.statementWalks → (Walk.firstOf .statement walks).on s = s.statement) ∧
    Walk.statements.on s = s.statements ∧
    ∀ e after, s.statements = (.error e, after) → ∃ last, Passes s last ∧ StopsAt last e after := by
  refine ⟨statementContract (Walk.runs_select? s rfl) (readSelect_fromFront _),
    statementContract (Walk.runs_insert? s rfl) (readInsert_fromFront _),
    statementContract (Walk.runs_update? s rfl) (readUpdate_fromFront _),
    statementContract (Walk.runs_delete? s rfl) (readDelete_fromFront _),
    statementContract (Walk.runs_createTable? s rfl) readCreateTable_fromFront,
    statementContract (Walk.runs_dropTable? s rfl) readDropTable_fromFront,
    ⟨Walk.runs_statement s rfl, settlesTo_run (Parsing.statement _).progresses⟩,
    ⟨Walk.runs_expression s rfl, settlesTo_run (Parsing.expression _).progresses⟩,
    pairwise_statementWalks s, fun walks hperm => firstOf_on_perm hperm s, Walk.on_statements s,
    fun e after h => passes_of_statements_eq_error h⟩

end TokenStream

end SqlShell
