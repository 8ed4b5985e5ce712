import SqlShell.Proofs.Parsing.Relocation
import SqlShell.Proofs.Token.Scan
/-!
# Parsing kinds of tokens

`parseKinds` parses tokens that have kinds but no places. A text that scans as some kinds parses exactly if they do,
and to the same statements up to places (`parse_of_scans`, `scans_of_parse`). Kinds are parsed piece by piece: where a
semicolon stands, the kinds up to it and the kinds behind it are parsed on their own (`parseKinds_append`).
-/

namespace SqlShell

open Parsing Reader

/-- The token of a kind at the start of a text. -/
def Token.ofKind (kind : Token.Kind) : Token :=
  ⟨kind, Location.start⟩

/-- The statement with all of its tokens moved to the start of the text. -/
def Statement.unplaced (s : Statement) : Statement :=
  s.relocate fun _ => Location.start

/-- The statements that tokens of these kinds stand for. -/
def parseKinds (kinds : List Token.Kind) : Except ParseError (List Statement) :=
  parseTokens (kinds.map Token.ofKind)

theorem parseKinds_nil : parseKinds [] = .ok [] := by
  rw [parseKinds, List.map_nil, parseTokens, readBatch]

theorem map_relocate_start (tokens : List Token) :
    tokens.map (Token.relocate fun _ => Location.start) = (tokens.map (·.kind)).map Token.ofKind := by
  rw [List.map_map]
  rfl

/-! ### Texts and kinds -/

theorem scans_of_parse {source : String} {statements : List Statement} (h : parse source = .ok statements) :
    ∃ kinds, Scans false source.toList kinds ∧ parseKinds kinds = .ok (statements.map Statement.unplaced) := by
  rw [parse] at h
  split at h
  · simp at h
  · next tokens htokens =>
    refine ⟨tokens.map (·.kind), scans_of_lexFrom htokens, ?_⟩
    rw [parseKinds, ← map_relocate_start]
    rw [parseTokens_map, h]
    rfl

theorem parse_of_scans {source : String} {kinds : List Token.Kind} {statements : List Statement}
    (h : Scans false source.toList kinds) (hkinds : parseKinds kinds = .ok statements) :
    ∃ found, parse source = .ok found ∧ found.map Statement.unplaced = statements := by
  obtain ⟨tokens, htokens, rfl⟩ := h.lexFrom Location.start
  rw [parseKinds, ← map_relocate_start] at hkinds
  obtain ⟨hstatements, hfailure⟩ := parseTokens_eq_ok.1 hkinds
  obtain ⟨hmoved, hmovedFailure⟩ := readBatch_map (fun _ => Location.start) nestingLimit tokens
  refine ⟨(readBatch nestingLimit tokens).statements, ?_, hmoved.symm.trans hstatements⟩
  rw [parse, lex, htokens]
  refine parseTokens_eq_ok.2 ⟨rfl, ?_⟩
  simpa [hfailure] using hmovedFailure.symm

/-! ### Semicolons -/

/-- Token lists that are the same up to a semicolon, the second one moved. -/
def SameUpTo (f : Location → Location) (semicolon : Token) (behind behind' tokens other : List Token) : Prop :=
  ∃ front, tokens = front ++ semicolon :: behind ∧
    other = front.map (Token.relocate f) ++ semicolon.relocate f :: behind'

theorem matching_sameUpTo {f : Location → Location} {semicolon : Token} {behind behind' : List Token}
    (hsemicolon : semicolon.kind = .symbol .semicolon) :
    TokenMatching f (SameUpTo f semicolon behind behind') where
  nil h := by
    obtain ⟨front, hfront, -⟩ := h
    simp at hfront
  cons := by
    rintro t rest other ⟨front, hfront, rfl⟩
    cases front with
    | nil =>
      obtain ⟨rfl, -⟩ := List.cons.inj hfront
      exact ⟨behind', rfl, fun hkind => absurd hsemicolon hkind⟩
    | cons u front =>
      obtain ⟨rfl, rfl⟩ := List.cons.inj hfront
      exact ⟨_, rfl, fun _ => ⟨front, rfl, rfl⟩⟩

/-- A batch that is read to its end is read alike up to a semicolon and behind it. -/
theorem readBatch_append (f : Location → Location) {nesting : Nat} (front : List Token) {behind : List Token}
    {semicolon : Token} (hsemicolon : semicolon.kind = .symbol .semicolon)
    (h : (readBatch nesting (front ++ semicolon :: behind)).failure = none) :
    (readBatch nesting behind).failure = none ∧
      (readBatch nesting (front.map (Token.relocate f) ++ [semicolon.relocate f])).failure = none ∧
      ∃ first, (readBatch nesting (front ++ semicolon :: behind)).statements =
          first ++ (readBatch nesting behind).statements ∧
        (readBatch nesting (front.map (Token.relocate f) ++ [semicolon.relocate f])).statements =
          first.map (Statement.relocate f) := by
  have hfollows : Follows (SameUpTo f semicolon behind []) (Statement.relocate f) _ _ :=
    statement_follows (matching_sameUpTo hsemicolon) nesting
  generalize htokens : front ++ semicolon :: behind = tokens at h
  have hsame : SameUpTo f semicolon behind [] tokens (front.map (Token.relocate f) ++ [semicolon.relocate f]) :=
    ⟨front, htokens.symm, rfl⟩
  fun_induction readBatch nesting tokens generalizing front with
  | case1 => simp at htokens
  | case2 => simp at h
  | case3 t tokens s hs =>
    obtain ⟨_, _, _, hnil, -⟩ := hfollows.of_ok hsame hs
    simp at hnil
  | case4 t tokens s u rest hs hu batch ih =>
    obtain ⟨rest', hs', front', hrest, rfl⟩ := hfollows.of_ok hsame hs
    obtain ⟨first, others, hfront⟩ : ∃ v others, front.map (Token.relocate f) ++ [semicolon.relocate f] = v :: others :=
      List.exists_cons_of_ne_nil (by simp)
    rw [hfront] at hs' ⊢
    cases front' with
    | nil =>
      obtain ⟨rfl, rfl⟩ := List.cons.inj hrest
      have hbatch := readBatch_of_semicolon (u := u.relocate f) hs' hu
      rw [hbatch, readBatch]
      exact ⟨h, rfl, [s], rfl, rfl⟩
    | cons v front' =>
      obtain ⟨rfl, rfl⟩ := List.cons.inj hrest
      obtain ⟨hbehind, hfailure, first, hfirst, hmoved⟩ := ih front' rfl h ⟨front', rfl, rfl⟩
      have hbatch := readBatch_of_semicolon (u := u.relocate f) hs' hu
      rw [hbatch]
      exact ⟨hbehind, hfailure, s :: first, congrArg (s :: ·) hfirst, congrArg (s.relocate f :: ·) hmoved⟩
  | case5 => simp at h

/-- Behind a semicolon the parser starts anew. -/
theorem parseKinds_append {front behind : List Token.Kind} {statements : List Statement}
    (h : parseKinds (front ++ .symbol .semicolon :: behind) = .ok statements) :
    ∃ first second, parseKinds (front ++ [.symbol .semicolon]) = .ok (first.map Statement.unplaced) ∧
      parseKinds behind = .ok second ∧ statements = first ++ second := by
  rw [parseKinds, List.map_append, List.map_cons] at h
  obtain ⟨rfl, hfailure⟩ := parseTokens_eq_ok.1 h
  obtain ⟨hbehind, hfront, first, hstatements, hfirst⟩ :=
    readBatch_append (fun _ => Location.start) (front.map Token.ofKind) rfl hfailure
  have hplaces : (front.map Token.ofKind).map (Token.relocate fun _ => Location.start) = front.map Token.ofKind := by
    rw [List.map_map]
    rfl
  rw [hplaces] at hfront hfirst
  refine ⟨first, _, ?_, parseTokens_eq_ok.2 ⟨rfl, hbehind⟩, hstatements⟩
  rw [parseKinds, List.map_append]
  exact parseTokens_eq_ok.2 ⟨hfirst, hfront⟩

end SqlShell
