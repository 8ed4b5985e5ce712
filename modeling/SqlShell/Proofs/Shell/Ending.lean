import SqlShell.Proofs.Shell.Sweep
import SqlShell.Proofs.Text.Blanks
/-!
# What a text ends with

A statement is complete where the last character that matters is a semicolon in code. `Mode.lastIn` finds that
character over a whole text, with the bookkeeping of `Mode.sweep` and without tokens. Over one line it is what the
shell's scanner finds (`scan_snd`), and over a text that scans it is the last character of the last token. So the two
agree on whether the last token is a semicolon (`Scans.lastIn_eq_semicolon_iff`).
-/

namespace SqlShell

open Text

namespace Mode

/-- The last character of a text that is neither blank nor in a comment, given that of the text so far. -/
def lastIn : Mode → Option Char → List Char → Option Char
  | _, last, [] => last
  | .code, last, c :: rest =>
    if PendingBatch.isDelimiter c then lastIn (.quoted c) (some c) rest
    else if c = '-' ∧ rest.head? = some '-' then lastIn .comment last rest
    else lastIn .code (if isBlank c then last else some c) rest
  | .comment, last, c :: rest => lastIn (if c = '\n' then .code else .comment) last rest
  | .quoted delimiter, _, c :: rest => lastIn (if c = delimiter then .code else .quoted delimiter) (some c) rest

variable {mode : Mode} {last : Option Char} {c : Char}

@[simp] theorem lastIn_nil (mode : Mode) (last : Option Char) : mode.lastIn last [] = last := by
  cases mode <;> rfl

/-- The text so far matters only if nothing in the text does. -/
theorem lastIn_eq_or (mode : Mode) (last : Option Char) (text : List Char) :
    mode.lastIn last text = (mode.lastIn none text).or last := by
  induction text generalizing mode last with
  | nil => simp
  | cons c rest ih =>
    have hsome (mode : Mode) (last : Option Char) :
        mode.lastIn (some c) rest = (mode.lastIn (some c) rest).or last := by
      rw [ih mode (some c), Option.or_assoc, Option.some_or]
    cases mode with
    | code =>
      simp only [lastIn]
      split
      · exact hsome _ last
      · split
        · exact ih _ last
        · split
          · exact ih _ last
          · exact hsome _ last
    | comment => exact ih _ last
    | quoted delimiter => exact hsome _ last

theorem lastIn_append {first second : List Char} (h : first.getLast? ≠ some '-' ∨ second.head? ≠ some '-') :
    mode.lastIn last (first ++ second) = (mode.sweep first).lastIn (mode.lastIn last first) second := by
  induction first generalizing mode last with
  | nil => simp
  | cons c rest ih =>
    rw [List.cons_append]
    cases mode with
    | code =>
      simp only [lastIn, sweep, opens_comment_append h, ih (cut_tail h)]
      split
      · rfl
      · split <;> rfl
    | comment => simp only [lastIn, sweep, ih (cut_tail h)]
    | quoted delimiter => simp only [lastIn, sweep, ih (cut_tail h)]

/-- The last character of a text counts unless it is blank or in a comment. -/
theorem lastIn_concat {first : List Char} (hmode : mode.sweep first ≠ .comment) (hblank : isBlank c = false)
    (hsign : c = '-' → first = []) : mode.lastIn last (first ++ [c]) = some c := by
  have hcut : first.getLast? ≠ some '-' ∨ [c].head? ≠ some '-' := by
    by_cases hc : c = '-'
    · exact .inl (by simp [hsign hc])
    · exact .inr (by simpa using hc)
  rw [lastIn_append hcut]
  cases hfirst : mode.sweep first with
  | code =>
    simp only [lastIn, List.head?_nil, reduceCtorEq, and_false, if_false, hblank, Bool.false_eq_true]
    split <;> rfl
  | comment => exact absurd hfirst hmode
  | quoted delimiter => simp only [lastIn]

/-! ### Lines -/

theorem lastIn_comment_line {line : List Char} (hline : ∀ c ∈ line, c ≠ '\n') : lastIn .comment last line = last := by
  induction line with
  | nil => rfl
  | cons c line ih =>
    obtain ⟨hc, hline⟩ := List.forall_mem_cons.1 hline
    rw [lastIn, if_neg hc, ih hline]

/-- The shell's scanner finds the last character of a line that matters. -/
theorem scan_snd (quote last : Option Char) {line : List Char} (hline : ∀ c ∈ line, c ≠ '\n') :
    (PendingBatch.scan quote last line).2 = (ofQuote quote).lastIn last line := by
  induction line generalizing quote last with
  | nil => simp [PendingBatch.scan]
  | cons c line ih =>
    have hrest := (List.forall_mem_cons.1 hline).2
    cases quote with
    | some delimiter =>
      rw [PendingBatch.scan, ih _ _ hrest]
      by_cases hc : c = delimiter
      · rw [if_pos hc, ofQuote, ofQuote, lastIn, if_pos hc]
      · rw [if_neg hc, ofQuote, lastIn, if_neg hc]
    | none =>
      simp only [PendingBatch.scan, ofQuote, lastIn]
      split
      · exact ih _ _ hrest
      · split
        · exact (lastIn_comment_line hrest).symm
        · split
          · exact ih _ _ hrest
          · exact ih _ _ hrest

theorem lastIn_line {line : List Char} (hmode : ∀ delimiter, mode.sweep line ≠ .quoted delimiter) :
    mode.lastIn last (line ++ ['\n']) = mode.lastIn last line := by
  rw [lastIn_append (.inr (by simp))]
  cases hline : mode.sweep line with
  | code => rfl
  | comment => rfl
  | quoted delimiter => exact absurd hline (hmode delimiter)

end Mode

open Mode

variable {text rest : List Char} {kinds : List Token.Kind}

/-! ### Tokens -/

theorem Numeral.IsNumber.getLast? {number : List Char} (h : Numeral.IsNumber number) :
    ∀ c ∈ number.getLast?, c.isDigit = true ∨ c = '.' := by
  obtain ⟨mantissa, exponent, hmantissa, hexponent, rfl⟩ := h
  intro c hc
  cases hexponent with
  | absent =>
    rw [List.append_nil] at hc
    have hmem := List.mem_of_getLast? hc
    cases hmantissa with
    | whole hne hds => exact .inl (hds c hmem)
    | @point ds fs hds hfs hne =>
      rcases List.mem_append.1 hmem with hmem | hmem
      · exact .inl (hds c hmem)
      · rcases List.mem_cons.1 hmem with hpoint | hmem
        · exact .inr hpoint
        · exact .inl (hfs c hmem)
  | @written letter mark ds hletter hmark hne hds =>
    have hlast : (mantissa ++ letter :: (mark ++ ds)).getLast? = ds.getLast? := by
      have htext : mantissa ++ letter :: (mark ++ ds) = (mantissa ++ letter :: mark) ++ ds := by simp
      rw [htext, List.getLast?_append, List.getLast?_eq_some_getLast hne, Option.some_or]
    rw [hlast] at hc
    exact .inl (hds c (List.mem_of_getLast? hc))

/-- A token does not end with a blank, or with a comment sign, and only one ends with a semicolon. -/
theorem Token.Kind.Spelled.getLast? {kind : Token.Kind} {spelling : List Char} (h : kind.Spelled spelling rest) :
    ∀ c ∈ spelling.getLast?, isBlank c = false ∧ (c = '-' → spelling = ['-']) ∧
      (c = ';' ↔ kind = .symbol .semicolon) := by
  have hplain (p : Char → Bool) (hp : p '-' = false ∧ p ';' = false)
      (hblank : blanks.all (!p ·) = true)
      (hkind : kind ≠ .symbol .semicolon) {c : Char} (hc : p c = true) :
      isBlank c = false ∧ (c = '-' → spelling = ['-']) ∧ (c = ';' ↔ kind = .symbol .semicolon) := by
    have hne (d : Char) (hd : p d = false) : c ≠ d := by
      rintro rfl
      simp [hc] at hd
    exact ⟨isBlank_eq_false_of p hblank hc, fun hminus => absurd hminus (hne '-' hp.1),
      fun hsemicolon => absurd hsemicolon (hne ';' hp.2), fun hsemicolon => absurd hsemicolon hkind⟩
  intro c hc
  cases h with
  | word hrun hkind =>
    refine hplain isNameChar (by decide) blanks_all_not_isNameChar ?_ (hrun c (List.mem_of_getLast? hc))
    rintro rfl
    obtain ⟨⟨k, hk⟩ | ⟨b, hb⟩, -⟩ := Token.Kind.ofWord?_eq_some hkind
    · simp at hk
    · simp at hb
  | symbol s => cases s <;> simp [Symbol.spelling] at hc ⊢ <;> subst hc <;> decide
  | string contents =>
    rw [Quoted.encode, ← List.cons_append, List.getLast?_concat] at hc
    obtain rfl : '\'' = c := by simpa using hc
    exact ⟨by decide, by simp, by simp⟩
  | @quotedName delimiter name _ hdelimiter =>
    rw [Quoted.encode, ← List.cons_append, List.getLast?_concat] at hc
    obtain rfl : delimiter = c := by simpa using hc
    rcases hdelimiter with rfl | rfl <;> exact ⟨by decide, by simp, by simp⟩
  | @bareName first run _ hfirst hrun =>
    have hall : ∀ d ∈ first :: run, isNameChar d = true :=
      List.forall_mem_cons.2 ⟨isNameChar_of_isNameStart hfirst, hrun⟩
    exact hplain isNameChar (by decide) blanks_all_not_isNameChar (by simp) (hall c (List.mem_of_getLast? hc))
  | numeral htext =>
    refine hplain (fun c => c.isDigit || c == '.') (by decide) (by decide) (by simp) ?_
    simpa using htext.getLast? c hc

/-- A token is left in code, and its last character is the last one so far that counts. -/
theorem Mode.lastIn_spelled {kind : Token.Kind} {spelling : List Char} (h : kind.Spelled spelling rest)
    (hgap : opensGap (spelling ++ rest) = false) (last : Option Char) :
    lastIn .code last (spelling ++ rest) = lastIn .code spelling.getLast? rest := by
  have hbreaks : kind.Spelled spelling [] := h.exchange (.inl (by simp [Breaks]))
  have hsweep : sweep .code spelling = .code := by
    simpa using sweep_spelled hbreaks (opensGap_exchange h.ne_nil hgap (.inl rfl))
  obtain ⟨first, c, rfl⟩ : ∃ first c, spelling = first ++ [c] := by
    rcases List.eq_nil_or_concat spelling with hnil | ⟨first, c, hconcat⟩
    · exact absurd hnil h.ne_nil
    · exact ⟨first, c, by simpa using hconcat⟩
  obtain ⟨hblank, hsign, -⟩ := h.getLast? c (by simp)
  have hsign' : c = '-' → first = [] := by
    intro hc
    simpa [hc] using hsign hc
  have hcut : (first ++ [c]).getLast? ≠ some '-' ∨ rest.head? ≠ some '-' := by
    by_cases hc : c = '-'
    · have hopens : opensGap ('-' :: rest) = false := by simpa [hc, hsign' hc] using hgap
      refine .inr fun hrest => ?_
      simp [opensGap, hrest] at hopens
    · exact .inl (by simpa using hc)
  have hmode : sweep .code first ≠ .comment := by
    -- only a line feed leaves a comment, and it is blank
    intro hcomment
    have hconcat : sweep .code (first ++ [c]) = sweep .comment [c] := by
      rw [sweep_append (.inr ?_), hcomment]
      intro hc
      obtain rfl := hsign' (by simpa using hc)
      simp at hcomment
    rw [hconcat, sweep] at hsweep
    split at hsweep
    · next hc =>
      subst hc
      exact absurd hblank (by decide)
    · simp at hsweep
  rw [lastIn_append hcut, hsweep, lastIn_concat hmode hblank hsign', List.getLast?_concat]

theorem Scans.sweep {inComment : Bool} (h : Scans inComment text kinds) :
    ∃ endsInComment, (ofComment inComment).sweep text = ofComment endsInComment := by
  induction h with
  | @finish inComment => exact ⟨inComment, sweep_nil _⟩
  | @comment c rest kinds h ih =>
    by_cases hc : c = '\n' <;> simpa [ofComment, Mode.sweep, hc] using ih
  | @blank c rest kinds hc h ih =>
    obtain ⟨b, hb⟩ := ih
    exact ⟨b, (sweep_code_plain (isPlain_of isBlank (by decide) hc)).trans hb⟩
  | opening h ih =>
    obtain ⟨b, hb⟩ := ih
    exact ⟨b, sweep_code_opening.trans hb⟩
  | token hspelled hgap h ih =>
    obtain ⟨b, hb⟩ := ih
    exact ⟨b, (sweep_spelled hspelled hgap).trans hb⟩

/-- The last character that counts is a semicolon if the last token is one. -/
theorem Scans.lastIn_eq_semicolon_iff {inComment : Bool} (h : Scans inComment text kinds) (last : Option Char) :
    (ofComment inComment).lastIn last text = some ';' ↔
      kinds.getLast? = some (.symbol .semicolon) ∨ kinds = [] ∧ last = some ';' := by
  induction h generalizing last with
  | finish => simp
  | @comment c rest kinds h ih =>
    rw [← ih last]
    by_cases hc : c = '\n' <;> simp [ofComment, lastIn, hc]
  | @blank c rest kinds hc h ih =>
    rw [← ih last]
    obtain ⟨hdelimiter, hminus⟩ := isPlain_iff.1 (isPlain_of isBlank (by decide) hc)
    simp [ofComment, lastIn, hdelimiter, hminus, hc]
  | opening h ih =>
    rw [← ih last]
    have hdelimiter : PendingBatch.isDelimiter '-' = false := by decide
    simp [ofComment, lastIn, hdelimiter]
  | @token kind spelling rest kinds hspelled hgap h ih =>
    obtain ⟨c, hc⟩ : ∃ c, spelling.getLast? = some c :=
      ⟨_, List.getLast?_eq_some_getLast hspelled.ne_nil⟩
    have hkind := (hspelled.getLast? c hc).2.2
    show lastIn .code last (spelling ++ rest) = _ ↔ _
    rw [lastIn_spelled hspelled hgap, hc]
    refine (ih (some c)).trans ?_
    cases kinds with
    | nil => simpa using hkind
    | cons other kinds => simp

/-! ### The lines collected so far -/

namespace PendingBatch

variable {pending : PendingBatch} {line : List Char}

theorem Collected.lastIn_line (h : pending.Collected) (line : List Char) :
    lastIn .code none (pending.text.toList ++ (line ++ ['\n'])) =
      (ofQuote pending.quote).lastIn (lastIn .code none pending.text.toList) (line ++ ['\n']) := by
  rw [lastIn_append (.inl ?_), h.mode]
  rcases h.lines with hlines | hlines <;> simp [hlines]

/-- Where no quotes are open behind a line, the scanner has found the last character that counts. -/
theorem Collected.lastIn_scan (h : pending.Collected) (last : Option Char) (hline : ∀ c ∈ line, c ≠ '\n')
    (hscan : (scan pending.quote last line).1 = none) :
    (ofQuote pending.quote).lastIn last (line ++ ['\n']) = (scan pending.quote last line).2 := by
  rw [scan_snd _ _ hline]
  apply Mode.lastIn_line
  intro delimiter hmode
  have hdelimiter : PendingBatch.isDelimiter delimiter = true := by
    refine isDelimiter_of_sweep hmode fun d hd => ?_
    cases hquote : pending.quote with
    | none => simp [hquote, ofQuote] at hd
    | some other =>
      rw [hquote] at hd
      exact Mode.quoted.inj hd ▸ h.isDelimiter other hquote
  have hfeed : '\n' ≠ delimiter := by
    rintro rfl
    exact absurd hdelimiter (by decide)
  have hsweep := mode_scan pending.quote last h.isDelimiter hline
  rw [hscan, Mode.sweep_append (.inr (by simp)), hmode, sweep, if_neg hfeed] at hsweep
  simp [ofQuote] at hsweep

theorem Collected.lastIn_eq_semicolon (h : pending.Collected) (hline : ∀ c ∈ line, c ≠ '\n')
    (hscan : scan pending.quote none line = (none, some ';')) :
    lastIn .code none (pending.text.toList ++ (line ++ ['\n'])) = some ';' := by
  rw [h.lastIn_line, lastIn_eq_or, h.lastIn_scan none hline (by rw [hscan]), hscan, Option.some_or]

end PendingBatch

/-- Where the scanner sees a line end with a semicolon, the text collected up to there ends with that token. -/
theorem Scans.endsWithSemicolon {pending : PendingBatch} {line : List Char}
    (h : Scans false (pending.text.toList ++ (line ++ ['\n'])) kinds) (hcollected : pending.Collected)
    (hline : ∀ c ∈ line, c ≠ '\n') (hscan : PendingBatch.scan pending.quote none line = (none, some ';')) :
    ∃ front, kinds = front ++ [.symbol .semicolon] := by
  have hlast := (h.lastIn_eq_semicolon_iff none).1 (hcollected.lastIn_eq_semicolon hline hscan)
  have hkinds : kinds.getLast? = some (.symbol .semicolon) := by simpa using hlast
  exact List.getLast?_eq_some_iff.1 hkinds

end SqlShell
