import SqlShell.Proofs.Token.Scan
/-!
# Tiling a text

The lexer cuts a text into gaps and tokens. `Tiled` says what that means without reading anything: gap, spelling, gap,
spelling and so on, where each spelling is a way to write its token and the token's location is counted off the text in
front of it. The tiles laid so far are carried along the recursion of the lexer (`Tiled.lay`): a step adds one gap and
one token, and the location that the lexer keeps is the one behind the text so far.
-/

namespace SqlShell

open Text

variable {c : Char} {text rest : List Char}

/-! ### Places -/

/-- The location behind a text: the number of its line feeds, and of its characters behind the last one. -/
def Location.behind (text : List Char) : Location :=
  ⟨text.count '\n', (text.reverse.takeWhile (· != '\n')).length⟩

theorem Location.behind_append_singleton (text : List Char) (c : Char) :
    behind (text ++ [c]) = (behind text).next c := by
  by_cases hc : c = '\n'
  · simp [behind, next, hc]
  · simp [behind, next, hc]

theorem Location.after_behind (text more : List Char) : (behind text).after more = behind (text ++ more) := by
  induction more generalizing text with
  | nil => simp
  | cons c more ih => rw [after_cons, ← behind_append_singleton, ih, List.append_assoc, List.singleton_append]

theorem Location.behind_append_append (text gap spelling : List Char) :
    behind (text ++ gap ++ spelling) = ((behind text).after gap).after spelling := by
  rw [after_behind, after_behind]

/-! ### Gaps -/

/-- Blanks and comments. A comment goes to the end of its line, and at the end of a text that may be missing. -/
inductive IsGap : (atEnd : Bool) → List Char → Prop
  | nil {atEnd : Bool} : IsGap atEnd []
  | blank {atEnd : Bool} {c : Char} {rest : List Char} (hc : isBlank c = true) (h : IsGap atEnd rest) :
      IsGap atEnd (c :: rest)
  | comment {atEnd : Bool} {body rest : List Char} (hbody : '\n' ∉ body) (h : IsGap atEnd rest) :
      IsGap atEnd ('-' :: '-' :: (body ++ '\n' :: rest))
  | lastComment {body : List Char} (hbody : '\n' ∉ body) : IsGap true ('-' :: '-' :: body)

/-- Inside a comment, a gap starts with what is left of it. -/
def EndsComment (atEnd : Bool) (gap : List Char) : Prop :=
  (∃ body rest, '\n' ∉ body ∧ gap = body ++ '\n' :: rest ∧ IsGap atEnd rest) ∨ '\n' ∉ gap ∧ atEnd = true

theorem EndsComment.cons {atEnd : Bool} (hc : c ≠ '\n') (h : EndsComment atEnd text) :
    EndsComment atEnd (c :: text) := by
  rcases h with ⟨body, rest, hbody, rfl, hrest⟩ | ⟨hnone, hend⟩
  · exact .inl ⟨c :: body, rest, by simpa using ⟨hc.symm, hbody⟩, rfl, hrest⟩
  · exact .inr ⟨by simpa using ⟨hc.symm, hnone⟩, hend⟩

theorem EndsComment.isGap {atEnd : Bool} (h : EndsComment atEnd ('-' :: text)) : IsGap atEnd ('-' :: '-' :: text) := by
  rcases h with ⟨body, rest, hbody, hgap, hrest⟩ | ⟨hnone, rfl⟩
  · cases body with
    | nil => simp at hgap
    | cons d body =>
      obtain ⟨rfl, rfl⟩ := List.cons.inj hgap
      exact .comment (fun hmem => hbody (List.mem_cons_of_mem _ hmem)) hrest
  · exact .lastComment fun hmem => hnone (List.mem_cons_of_mem _ hmem)

/-- What is cut off the start of a text is a gap, one at the end of the text if nothing is left. -/
theorem isGap_splitGap (inComment : Bool) (text : List Char) :
    (inComment = false → IsGap (splitGap inComment text).2.isEmpty (splitGap inComment text).1) ∧
      (inComment = true → EndsComment (splitGap inComment text).2.isEmpty (splitGap inComment text).1) := by
  fun_induction splitGap inComment text with
  | case1 => exact ⟨fun _ => .nil, fun _ => .inr ⟨by simp, rfl⟩⟩
  | case2 c rest gap after hsplit ih =>
    rw [hsplit] at ih
    refine ⟨by simp, fun _ => ?_⟩
    by_cases hc : c = '\n'
    · subst hc
      exact .inl ⟨[], gap, by simp, rfl, ih.1 rfl⟩
    · exact (ih.2 (by simpa using hc)).cons hc
  | case3 inComment c rest hcomment hblank gap after hsplit ih =>
    rw [hsplit] at ih
    exact ⟨fun _ => .blank hblank (ih.1 rfl), fun htrue => absurd htrue hcomment⟩
  | case4 inComment c rest hcomment hblank hsign gap after hsplit ih =>
    rw [hsplit] at ih
    refine ⟨fun _ => ?_, fun htrue => absurd htrue hcomment⟩
    obtain ⟨rfl, hrest⟩ := hsign
    cases rest with
    | nil => simp at hrest
    | cons d rest =>
      obtain rfl : d = '-' := by simpa using hrest
      obtain ⟨hgap, rfl⟩ : gap = '-' :: (splitGap true rest).1 ∧ (splitGap true rest).2 = after := by
        have hstep : splitGap true ('-' :: rest) = ('-' :: (splitGap true rest).1, (splitGap true rest).2) := rfl
        rw [hstep] at hsplit
        obtain ⟨hgap, hafter⟩ := Prod.mk.inj hsplit
        exact ⟨hgap.symm, hafter⟩
      rw [hgap] at ih ⊢
      exact (ih.2 rfl).isGap
  | case5 inComment c rest hcomment => exact ⟨fun _ => .nil, fun htrue => absurd htrue hcomment⟩

/-! ### Spellings -/

/-- The ways to write a token. -/
inductive Token.Kind.WrittenAs : Token.Kind → List Char → Prop
  | keyword (k : Keyword) {run : List Char} (h : run.map Char.toLower = k.spelling.toList) : WrittenAs (.keyword k) run
  | boolean (value : Bool) {run : List Char} (h : run.map Char.toLower = (truthSpelling value).toList) :
      WrittenAs (.boolean value) run
  | symbol (s : Symbol) : WrittenAs (.symbol s) s.spelling.toList
  | string (contents : List Char) :
      WrittenAs (.string (String.ofList contents)) ('\'' :: (Quoted.double '\'' contents ++ ['\'']))
  | quotedName {delimiter : Char} (hdelimiter : delimiter = '"' ∨ delimiter = '\x60') (name : List Char) :
      WrittenAs (.identifier (String.ofList name)) (delimiter :: (Quoted.double delimiter name ++ [delimiter]))
  | bareName {first : Char} {run : List Char} (hfirst : isNameStart first = true)
      (hrun : ∀ c ∈ run, isNameChar c = true) :
      WrittenAs (.identifier (String.ofList ((first :: run).flatMap lower))) (first :: run)
  | numeral {text : List Char} (h : Numeral.IsNumber text) : WrittenAs (.numeral (String.ofList text)) text

theorem Token.Kind.Spelled.writtenAs {kind : Token.Kind} {spelling : List Char} (h : kind.Spelled spelling rest) :
    kind.WrittenAs spelling := by
  cases h with
  | word hrun hkind hrest =>
    obtain ⟨⟨k, rfl⟩ | ⟨value, rfl⟩, htext⟩ := ofWord?_eq_some hkind
    · exact .keyword k (by rw [← String.toList_ofList (l := spelling.map Char.toLower), htext]; rfl)
    · exact .boolean value (by rw [← String.toList_ofList (l := spelling.map Char.toLower), htext]; rfl)
  | symbol s => exact .symbol s
  | string contents => exact .string contents
  | quotedName name hdelimiter => exact .quotedName hdelimiter name
  | bareName hfirst hrun => exact .bareName hfirst hrun
  | numeral htext => exact .numeral htext

/-! ### Tiles -/

/-- The text is gap, spelling, gap, spelling and so on, and each token has the location of its spelling. -/
inductive Tiled : List Char → List Token → Prop
  | nil : Tiled [] []
  | append {text gap spelling : List Char} {tokens : List Token} {kind : Token.Kind} (h : Tiled text tokens)
      (hgap : IsGap false gap) (hkind : kind.WrittenAs spelling) :
      Tiled (text ++ gap ++ spelling) (tokens ++ [⟨kind, Location.behind (text ++ gap)⟩])

variable {before gap : List Char} {found tokens : List Token} {lexeme : Lexeme}

theorem isGap_of_splitGap (h : splitGap false text = (gap, rest)) : text = gap ++ rest ∧ IsGap rest.isEmpty gap := by
  have htext := splitGap_append false text
  have hgap := (isGap_splitGap false text).1 rfl
  rw [h] at htext hgap
  exact ⟨htext.symm, hgap⟩

/-- One round of the lexer lays one more tile. -/
theorem Tiled.lay (h : Tiled before found) (hgap : IsGap false gap) (hread : Lexeme.read? rest = some lexeme) :
    Tiled (before ++ gap ++ lexeme.spelling) (found ++ [⟨lexeme.kind, (Location.behind before).after gap⟩]) := by
  rw [Location.after_behind]
  exact h.append hgap (Lexeme.spelled_of_read? hread).writtenAs

/-- The lexer goes on laying tiles behind those that lie already. -/
theorem tiled_of_lexFrom_eq_ok (hbefore : Tiled before found)
    (h : lexFrom (Location.behind before) text = .ok tokens) :
    ∃ tiles gap, text = tiles ++ gap ∧ Tiled (before ++ tiles) (found ++ tokens) ∧ IsGap true gap := by
  generalize hstart : Location.behind before = start at h
  fun_induction lexFrom start text generalizing before found tokens with
  | case1 start text gap hsplit =>
    obtain rfl := Except.ok.inj h
    obtain ⟨rfl, hgap⟩ := isGap_of_splitGap hsplit
    exact ⟨[], gap, by simp, by simpa using hbefore, hgap⟩
  | case2 => simp at h
  | case3 => simp at h
  | case4 start text gap c rest hsplit lexeme hread more hmore ih =>
    obtain rfl := Except.ok.inj h
    subst hstart
    obtain ⟨rfl, hgap⟩ := isGap_of_splitGap hsplit
    obtain ⟨tiles, last, hrest, htiles, hlast⟩ :=
      ih (hbefore.lay hgap hread) (Location.behind_append_append _ _ _) hmore
    refine ⟨gap ++ lexeme.spelling ++ tiles, last, ?_, by simpa using htiles, hlast⟩
    rw [← (Lexeme.read?_tiles hread).1, hrest]
    simp

/-- Where the lexer fails, it has laid tiles up to there, and a gap behind them. -/
theorem tiled_of_lexFrom_eq_error {e : LexError} (hbefore : Tiled before found)
    (h : lexFrom (Location.behind before) text = .error e) :
    ∃ tiles gap c rest tokens, text = tiles ++ gap ++ c :: rest ∧ Tiled (before ++ tiles) tokens ∧ IsGap false gap ∧
      e.location = Location.behind (before ++ tiles ++ gap) ∧ opensGap (c :: rest) = false ∧
      Lexeme.read? (c :: rest) = none := by
  generalize hstart : Location.behind before = start at h
  fun_induction lexFrom start text generalizing before found with
  | case1 => simp at h
  | case2 start text gap c rest hsplit hread =>
    obtain rfl := Except.error.inj h
    subst hstart
    have hopens := opensGap_of_splitGap hsplit
    obtain ⟨rfl, hgap⟩ := isGap_of_splitGap hsplit
    refine ⟨[], gap, c, rest, found, rfl, by simpa using hbefore, hgap, ?_, hopens, hread⟩
    rw [Location.after_behind, List.append_nil]
  | case3 start text gap c rest hsplit lexeme hread e' he ih =>
    obtain rfl := Except.error.inj h
    subst hstart
    obtain ⟨rfl, hgap⟩ := isGap_of_splitGap hsplit
    obtain ⟨tiles, last, c', rest', tokens, hrest, htiles, hlast, hlocation, hopens, hnone⟩ :=
      ih (hbefore.lay hgap hread) (Location.behind_append_append _ _ _) he
    refine ⟨gap ++ lexeme.spelling ++ tiles, last, c', rest', tokens, ?_, by simpa using htiles, hlast, ?_, hopens,
      hnone⟩
    · rw [← (Lexeme.read?_tiles hread).1, hrest]
      simp
    · rw [hlocation]
      simp
  | case4 => simp at h

theorem Lexeme.read?_eq_none : read? text = none ↔
    reserved? text = none ∧ string? text = none ∧ identifier? text = none ∧ numeral? text = none := by
  simp [read?]

/-- A text that has tokens is tiled by them, up to a last gap. A text that has none is tiled up to the place of the
error, where neither a gap nor a token starts. -/
theorem lex_tiles (source : String) :
    match lex source with
    | .ok tokens => ∃ text gap, source.toList = text ++ gap ∧ Tiled text tokens ∧ IsGap true gap
    | .error e => ∃ text gap c rest tokens, source.toList = text ++ gap ++ c :: rest ∧ Tiled text tokens ∧
        IsGap false gap ∧ e.location = Location.behind (text ++ gap) ∧ isBlank c = false ∧
        ¬(c = '-' ∧ rest.head? = some '-') ∧ Lexeme.reserved? (c :: rest) = none ∧
        Lexeme.string? (c :: rest) = none ∧ Lexeme.identifier? (c :: rest) = none ∧
        Lexeme.numeral? (c :: rest) = none := by
  cases h : lex source with
  | ok tokens => exact tiled_of_lexFrom_eq_ok .nil h
  | error e =>
    obtain ⟨text, gap, c, rest, tokens, hsource, htiled, hgap, hlocation, hopens, hnone⟩ :=
      tiled_of_lexFrom_eq_error .nil h
    simp only [opensGap, Bool.or_eq_false_iff] at hopens
    obtain ⟨hblank, hsign⟩ := hopens
    exact ⟨text, gap, c, rest, tokens, hsource, htiled, hgap, hlocation, hblank, by simpa using hsign,
      Lexeme.read?_eq_none.1 hnone⟩

end SqlShell
