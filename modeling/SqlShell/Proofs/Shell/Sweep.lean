import SqlShell.Proofs.Token.Scan
import SqlShell.Shell.Pending
/-!
# Quotes and comments, character by character

The shell finds the end of a statement without the lexer: it goes through lines and only keeps track of quotes and
comments. `Mode.sweep` is this bookkeeping over a whole text. Where it says that a text is cut in code, and the cut is
behind a line or in front of a semicolon, the lexer has no token on both sides of the cut, and the two parts scan on
their own (`Scans.split`). The shell's scanner is the bookkeeping over one line (`mode_scan`), so the quotes that a
pending batch remembers are those that its lines leave open (`PendingBatch.Collected`).
-/

namespace SqlShell

open Text

/-- What the characters of a text belong to at some place. -/
inductive Mode where
  | code
  | comment
  | quoted (delimiter : Char)
deriving DecidableEq

namespace Mode

/-- The mode behind a text that starts in a mode. -/
def sweep : Mode → List Char → Mode
  | mode, [] => mode
  | .code, c :: rest =>
    if PendingBatch.isDelimiter c then sweep (.quoted c) rest
    else if c = '-' ∧ rest.head? = some '-' then sweep .comment rest
    else sweep .code rest
  | .comment, c :: rest => sweep (if c = '\n' then .code else .comment) rest
  | .quoted delimiter, c :: rest => sweep (if c = delimiter then .code else .quoted delimiter) rest

/-- The mode in which the shell starts a line. -/
def ofQuote : Option Char → Mode
  | none => .code
  | some delimiter => .quoted delimiter

/-- The mode in which a text is scanned. -/
def ofComment (inComment : Bool) : Mode :=
  if inComment then .comment else .code

/-- A character that has no meaning of its own to the bookkeeping. -/
def isPlain (c : Char) : Bool :=
  !PendingBatch.isDelimiter c && c != '-'

variable {c : Char} {rest run : List Char}

@[simp] theorem sweep_nil (mode : Mode) : mode.sweep [] = mode := by
  cases mode <;> rfl

theorem isPlain_iff : isPlain c = true ↔ PendingBatch.isDelimiter c = false ∧ c ≠ '-' := by
  simp [isPlain]

theorem sweep_code_plain (hc : isPlain c = true) : sweep .code (c :: rest) = sweep .code rest := by
  obtain ⟨hdelimiter, hminus⟩ := isPlain_iff.1 hc
  simp [sweep, hdelimiter, hminus]

theorem sweep_code_minus (hrest : rest.head? ≠ some '-') : sweep .code ('-' :: rest) = sweep .code rest := by
  have hdelimiter : PendingBatch.isDelimiter '-' = false := by decide
  simp [sweep, hdelimiter, hrest]

theorem sweep_code_opening : sweep .code ('-' :: '-' :: rest) = sweep .comment ('-' :: rest) := by
  have hdelimiter : PendingBatch.isDelimiter '-' = false := by decide
  simp [sweep, hdelimiter]

theorem sweep_code_delimiter (hc : PendingBatch.isDelimiter c = true) :
    sweep .code (c :: rest) = sweep (.quoted c) rest := by
  rw [sweep, if_pos hc]

theorem sweep_code_append (hrun : ∀ c ∈ run, isPlain c = true) : sweep .code (run ++ rest) = sweep .code rest := by
  induction run with
  | nil => rfl
  | cons c run ih =>
    obtain ⟨hc, hrun⟩ := List.forall_mem_cons.1 hrun
    rw [List.cons_append, sweep_code_plain hc, ih hrun]

/-- Only delimiters open quotes. -/
theorem isDelimiter_of_sweep {mode : Mode} {text : List Char} {delimiter : Char}
    (h : mode.sweep text = .quoted delimiter) (hmode : ∀ d, mode = .quoted d → PendingBatch.isDelimiter d = true) :
    PendingBatch.isDelimiter delimiter = true := by
  induction text generalizing mode with
  | nil => exact hmode delimiter (by rwa [sweep_nil] at h)
  | cons c text ih =>
    cases mode with
    | code =>
      rw [sweep] at h
      split at h
      · next hc => exact ih h fun d hd => Mode.quoted.inj hd ▸ hc
      · split at h <;> exact ih h (by simp)
    | comment =>
      rw [sweep] at h
      split at h <;> exact ih h (by simp)
    | quoted d =>
      rw [sweep] at h
      split at h
      · exact ih h (by simp)
      · exact ih h hmode

/-- Whether a comment starts is seen without the text behind a cut, unless a comment sign stands on it. -/
theorem opens_comment_append {first second : List Char}
    (h : (c :: first).getLast? ≠ some '-' ∨ second.head? ≠ some '-') :
    c = '-' ∧ (first ++ second).head? = some '-' ↔ c = '-' ∧ first.head? = some '-' := by
  cases first with
  | nil =>
    constructor
    · rintro ⟨rfl, hsecond⟩
      simp at h hsecond
      exact absurd hsecond h
    · simp
  | cons d first => rfl

/-- What holds of a cut holds of it behind the first character. -/
theorem cut_tail {first second : List Char} (h : (c :: first).getLast? ≠ some '-' ∨ second.head? ≠ some '-') :
    first.getLast? ≠ some '-' ∨ second.head? ≠ some '-' := by
  cases first with
  | nil => simp
  | cons d first => simpa using h

/-- A text may be swept in two parts, unless a comment sign stands on the cut. -/
theorem sweep_append {mode : Mode} {first second : List Char}
    (h : first.getLast? ≠ some '-' ∨ second.head? ≠ some '-') :
    mode.sweep (first ++ second) = (mode.sweep first).sweep second := by
  induction first generalizing mode with
  | nil => simp
  | cons c rest ih =>
    rw [List.cons_append]
    cases mode with
    | code =>
      simp only [sweep, opens_comment_append h, ih (cut_tail h)]
      split
      · rfl
      · split <;> rfl
    | comment => simp only [sweep, ih (cut_tail h)]
    | quoted delimiter => simp only [sweep, ih (cut_tail h)]

/-! ### Tokens -/

/-- A character is plain if it is of a kind that no delimiter and no minus sign is of. -/
theorem isPlain_of (p : Char → Bool) (hp : ['\'', '"', '\x60', '-'].all (!p ·) = true) (h : p c = true) :
    isPlain c = true := by
  cases hplain : isPlain c with
  | true => rfl
  | false =>
    have hmem : c ∈ ['\'', '"', '\x60', '-'] := by
      simp only [isPlain, PendingBatch.isDelimiter, Bool.and_eq_false_iff, Bool.not_eq_false', Bool.or_eq_true,
        beq_iff_eq, bne_eq_false_iff_eq] at hplain
      simpa [or_assoc] using hplain
    have hfalse := List.all_eq_true.1 hp c hmem
    simp [h] at hfalse

theorem isPlain_of_isNameChar (h : isNameChar c = true) : isPlain c = true :=
  isPlain_of isNameChar (by decide) h

theorem isPlain_of_isDigit (h : c.isDigit = true) : isPlain c = true :=
  isPlain_of Char.isDigit (by decide) h

theorem sweep_double {delimiter : Char} (contents : List Char)
    (hdelimiter : PendingBatch.isDelimiter delimiter = true) :
    sweep (.quoted delimiter) (Quoted.double delimiter contents ++ delimiter :: rest) = sweep .code rest := by
  induction contents with
  | nil => simp [Quoted.double, sweep]
  | cons c contents ih =>
    by_cases hc : c = delimiter
    · rw [Quoted.double, if_pos hc, List.cons_append, List.cons_append, sweep, if_pos rfl,
        sweep_code_delimiter hdelimiter, ih]
    · rw [Quoted.double, if_neg hc, List.cons_append, sweep, if_neg hc, ih]

theorem sweep_encode {delimiter : Char} (contents : List Char)
    (hdelimiter : PendingBatch.isDelimiter delimiter = true) :
    sweep .code (Quoted.encode delimiter contents ++ rest) = sweep .code rest := by
  rw [Quoted.encode, List.cons_append, sweep_code_delimiter hdelimiter, List.append_assoc]
  exact sweep_double contents hdelimiter

theorem sweep_mantissa {mantissa : List Char} (h : Numeral.IsMantissa mantissa) :
    sweep .code (mantissa ++ rest) = sweep .code rest := by
  apply sweep_code_append
  cases h with
  | whole hne hds => exact fun c hc => isPlain_of_isDigit (hds c hc)
  | @point ds fs hds hfs hne =>
    intro c hc
    rcases List.mem_append.1 hc with hc | hc
    · exact isPlain_of_isDigit (hds c hc)
    · rcases List.mem_cons.1 hc with rfl | hc
      · decide
      · exact isPlain_of_isDigit (hfs c hc)

theorem sweep_exponent {exponent : List Char} (h : Numeral.IsExponent exponent) :
    sweep .code (exponent ++ rest) = sweep .code rest := by
  cases h with
  | absent => rfl
  | @written letter mark ds hletter hmark hne hds =>
    have hplain : isPlain letter = true := by
      simp only [Numeral.isMarker, Bool.or_eq_true, beq_iff_eq] at hletter
      rcases hletter with rfl | rfl <;> decide
    have hdigits : sweep .code (ds ++ rest) = sweep .code rest :=
      sweep_code_append fun c hc => isPlain_of_isDigit (hds c hc)
    rw [List.cons_append, sweep_code_plain hplain, List.append_assoc]
    rcases hmark with rfl | ⟨c, hc, rfl⟩
    · exact hdigits
    · simp only [Numeral.isSign, Bool.or_eq_true, beq_iff_eq] at hc
      rcases hc with rfl | rfl
      · exact (sweep_code_plain (by decide)).trans hdigits
      · obtain ⟨d, ds, rfl⟩ := List.exists_cons_of_ne_nil hne
        have hd : d ≠ '-' := by
          rintro rfl
          exact absurd (hds '-' (by simp)) (by decide)
        exact (sweep_code_minus (by simpa using hd)).trans hdigits

/-- A token leaves the bookkeeping where it was. -/
theorem sweep_spelled {kind : Token.Kind} {spelling : List Char} (h : kind.Spelled spelling rest)
    (hgap : opensGap (spelling ++ rest) = false) : sweep .code (spelling ++ rest) = sweep .code rest := by
  cases h with
  | word hrun => exact sweep_code_append fun c hc => isPlain_of_isNameChar (hrun c hc)
  | symbol s =>
    by_cases hs : s = .minus
    · subst hs
      have hrest : rest.head? ≠ some '-' := by
        intro hrest
        have : opensGap ('-' :: rest) = false := hgap
        simp [opensGap, hrest] at this
      exact sweep_code_minus hrest
    · have hplain : s.spelling.toList.all isPlain = true := by cases s <;> first | decide | exact absurd rfl hs
      exact sweep_code_append (List.all_eq_true.1 hplain)
  | string contents => exact sweep_encode contents (by decide)
  | quotedName name hdelimiter => exact sweep_encode name (by rcases hdelimiter with rfl | rfl <;> decide)
  | bareName hfirst hrun =>
    exact sweep_code_append (List.forall_mem_cons.2
      ⟨isPlain_of_isNameChar (isNameChar_of_isNameStart hfirst), fun c hc => isPlain_of_isNameChar (hrun c hc)⟩)
  | numeral htext =>
    obtain ⟨mantissa, exponent, hmantissa, hexponent, rfl⟩ := htext
    rw [List.append_assoc, sweep_mantissa hmantissa, sweep_exponent hexponent]

end Mode

open Mode

variable {c : Char} {text rest first second : List Char} {kinds : List Token.Kind}

/-! ### Cutting a text -/

/-- A cut behind a line or in front of a semicolon. -/
def Cuts (first second : List Char) : Prop :=
  first = [] ∨ first.getLast? = some '\n' ∨ second.head? = some ';'

theorem Cuts.tail (h : Cuts (c :: first) second) : Cuts first second := by
  rcases h with h | h | h
  · simp at h
  · cases first with
    | nil => exact .inl rfl
    | cons d first => exact .inr (.inl (by simpa using h))
  · exact .inr (.inr h)

theorem Cuts.drop (run : List Char) (h : Cuts (run ++ first) second) : Cuts first second := by
  induction run with
  | nil => exact h
  | cons c run ih => exact ih h.tail

/-- Only quoted tokens hold line feeds and semicolons, apart from the semicolon itself. -/
theorem Token.Kind.Spelled.quoted_or {kind : Token.Kind} {spelling : List Char} (h : kind.Spelled spelling rest) :
    (∃ delimiter contents, PendingBatch.isDelimiter delimiter = true ∧
      spelling = Quoted.encode delimiter contents) ∨ spelling = [';'] ∨ ∀ c ∈ spelling, c ≠ '\n' ∧ c ≠ ';' := by
  have hexclude (p : Char → Bool) (hp : p '\n' = false ∧ p ';' = false) {c : Char} (h : p c = true) :
      c ≠ '\n' ∧ c ≠ ';' := by
    constructor
    · rintro rfl
      simp [hp.1] at h
    · rintro rfl
      simp [hp.2] at h
  cases h with
  | word hrun => exact .inr (.inr fun c hc => hexclude isNameChar (by decide) (hrun c hc))
  | symbol s => cases s <;> first | exact .inr (.inl rfl) | exact .inr (.inr (by simp [Symbol.spelling]))
  | string contents => exact .inl ⟨'\'', contents, by decide, rfl⟩
  | @quotedName delimiter name _ hdelimiter =>
    exact .inl ⟨delimiter, name, by rcases hdelimiter with rfl | rfl <;> decide, rfl⟩
  | bareName hfirst hrun =>
    exact .inr (.inr (List.forall_mem_cons.2 ⟨hexclude isNameChar (by decide) (isNameChar_of_isNameStart hfirst),
      fun c hc => hexclude isNameChar (by decide) (hrun c hc)⟩))
  | numeral htext =>
    refine .inr (.inr fun c hc => ?_)
    rcases htext.forall_mem c hc with hc | hc
    · exact hexclude Numeral.isTail (by decide) hc
    · exact hexclude Numeral.isSign (by decide) hc

/-- Where quotes are cut behind a line or in front of a semicolon, they are open. -/
theorem sweep_cut_double {delimiter : Char} (hdelimiter : PendingBatch.isDelimiter delimiter = true)
    {contents first second : List Char} (h : Quoted.double delimiter contents ++ [delimiter] = first ++ second)
    (hne : second ≠ []) (hcut : Cuts first second) : (Mode.quoted delimiter).sweep first = .quoted delimiter := by
  have hfeed : delimiter ≠ '\n' ∧ delimiter ≠ ';' := by
    constructor <;> rintro rfl <;> exact absurd hdelimiter (by decide)
  induction contents generalizing first with
  | nil =>
    cases first with
    | nil => rfl
    | cons d first =>
      have hnil : first = [] ∧ second = [] := by simpa [Quoted.double] using congrArg List.length h
      exact absurd hnil.2 hne
  | cons c contents ih =>
    by_cases hc : c = delimiter
    · rw [Quoted.double, if_pos hc] at h
      rcases first with _ | ⟨d, _ | ⟨e, first⟩⟩
      · rfl
      · -- the cut would go through a doubled delimiter
        simp only [List.cons_append, List.nil_append, List.cons.injEq] at h
        obtain ⟨rfl, rfl⟩ := h
        rcases hcut with hcut | hcut | hcut
        · simp at hcut
        · exact absurd (by simpa using hcut) hfeed.1
        · exact absurd (by simpa using hcut) hfeed.2
      · simp only [List.cons_append, List.cons.injEq] at h
        obtain ⟨hd, he, h⟩ := h
        rw [← hd, ← he, sweep, if_pos rfl, sweep_code_delimiter hdelimiter]
        exact ih h hcut.tail.tail
    · rw [Quoted.double, if_neg hc] at h
      cases first with
      | nil => rfl
      | cons d first =>
        simp only [List.cons_append, List.cons.injEq] at h
        obtain ⟨rfl, h⟩ := h
        rw [sweep, if_neg hc]
        exact ih h hcut.tail

/-- No token reaches over a cut in code. -/
theorem Token.Kind.Spelled.sweep_cut {kind : Token.Kind} (h : kind.Spelled (first ++ second) rest) (hfirst : first ≠ [])
    (hsecond : second ≠ []) (hcut : Cuts first (second ++ rest)) : sweep .code first ≠ .code := by
  obtain ⟨c, tail, rfl⟩ := List.exists_cons_of_ne_nil hfirst
  have hcut' : Cuts (c :: tail) second := by
    obtain ⟨d, others, rfl⟩ := List.exists_cons_of_ne_nil hsecond
    exact hcut
  rcases h.quoted_or with ⟨delimiter, contents, hdelimiter, hspelling⟩ | hspelling | hspelling
  · rw [Quoted.encode, List.cons_append] at hspelling
    obtain ⟨rfl, hspelling⟩ := List.cons.inj hspelling
    rw [sweep_code_delimiter hdelimiter, sweep_cut_double hdelimiter hspelling.symm hsecond hcut'.tail]
    simp
  · have hnil : tail = [] ∧ second = [] := by simpa using congrArg List.length hspelling
    exact absurd hnil.2 hsecond
  · rcases hcut' with hcut' | hcut' | hcut'
    · simp at hcut'
    · exact absurd rfl (hspelling '\n' (List.mem_append_left _ (List.mem_of_getLast? hcut'))).1
    · exact absurd rfl (hspelling ';' (List.mem_append_right _ (List.mem_of_mem_head? hcut'))).2

theorem opensGap_exchange {spelling other : List Char} (hne : spelling ≠ [])
    (h : opensGap (spelling ++ rest) = false) (hother : other = [] ∨ other.head? = rest.head?) :
    opensGap (spelling ++ other) = false := by
  rcases spelling with _ | ⟨c, _ | ⟨d, spelling⟩⟩
  · exact absurd rfl hne
  · rcases hother with rfl | hother
    · simp only [List.singleton_append, opensGap, Bool.or_eq_false_iff] at h ⊢
      exact ⟨h.1, by simp⟩
    · simpa [opensGap, hother] using h
  · exact h

/-- A text that is cut either starts with the whole token, or the token reaches over the cut. -/
theorem append_eq_append_cut {spelling : List Char} (h : spelling ++ rest = first ++ second) :
    (∃ others, first = spelling ++ others ∧ rest = others ++ second) ∨
      ∃ others, others ≠ [] ∧ spelling = first ++ others ∧ second = others ++ rest := by
  rcases List.append_eq_append_iff.1 h with ⟨others, hleft, hright⟩ | ⟨others, hleft, hright⟩
  · exact .inl ⟨others, hleft, hright⟩
  · by_cases hothers : others = []
    · subst hothers
      exact .inl ⟨[], by simpa using hleft.symm, by simpa using hright.symm⟩
    · exact .inr ⟨others, hothers, hleft, hright⟩

/-- A token stays whole if the text behind it is cut. -/
theorem Token.Kind.Spelled.cut {kind : Token.Kind} {spelling : List Char} (h : kind.Spelled spelling (first ++ second))
    (hgap : opensGap (spelling ++ (first ++ second)) = false) :
    kind.Spelled spelling first ∧ opensGap (spelling ++ first) = false := by
  have hhead : first = [] ∨ first.head? = (first ++ second).head? := by
    cases first <;> simp
  refine ⟨h.exchange ?_, opensGap_exchange h.ne_nil hgap hhead⟩
  rcases hhead with rfl | hhead
  · exact .inl (by simp [Breaks])
  · exact .inr hhead

/-- A text that is cut in code scans in two parts. -/
theorem Scans.split {inComment : Bool} (h : Scans inComment text kinds) (htext : text = first ++ second)
    (hcut : Cuts first second) (hmode : (ofComment inComment).sweep first = .code) :
    ∃ before behind, kinds = before ++ behind ∧ Scans inComment first before ∧ Scans false second behind := by
  induction h generalizing first with
  | @finish inComment =>
    obtain ⟨rfl, rfl⟩ := List.append_eq_nil_iff.1 htext.symm
    exact ⟨[], [], rfl, .finish, .finish⟩
  | @comment c rest kinds h ih =>
    cases first with
    | nil => simp [ofComment] at hmode
    | cons d first =>
      obtain ⟨rfl, rfl⟩ := List.cons.inj htext
      have hstep : (ofComment (c != '\n')).sweep first = .code := by
        by_cases hc : c = '\n' <;> simpa [ofComment, sweep, hc] using hmode
      obtain ⟨before, behind, rfl, hbefore, hbehind⟩ := ih rfl hcut.tail hstep
      exact ⟨before, behind, rfl, .comment hbefore, hbehind⟩
  | @blank c rest kinds hc h ih =>
    cases first with
    | nil =>
      obtain rfl : c :: rest = second := htext
      exact ⟨[], kinds, rfl, .finish, .blank hc h⟩
    | cons d first =>
      obtain ⟨rfl, rfl⟩ := List.cons.inj htext
      have hstep : (ofComment false).sweep first = .code :=
        (sweep_code_plain (isPlain_of isBlank (by decide) hc)).symm.trans hmode
      obtain ⟨before, behind, rfl, hbefore, hbehind⟩ := ih rfl hcut.tail hstep
      exact ⟨before, behind, rfl, .blank hc hbefore, hbehind⟩
  | @opening rest kinds h ih =>
    rcases first with _ | ⟨d, _ | ⟨e, first⟩⟩
    · obtain rfl : '-' :: '-' :: rest = second := htext
      exact ⟨[], kinds, rfl, .finish, .opening h⟩
    · -- the cut would go through the comment sign
      simp only [List.cons_append, List.nil_append, List.cons.injEq] at htext
      obtain ⟨rfl, rfl⟩ := htext
      simp [Cuts] at hcut
    · simp only [List.cons_append, List.cons.injEq] at htext
      obtain ⟨rfl, rfl, rfl⟩ := htext
      have hstep : (ofComment true).sweep ('-' :: first) = .code := sweep_code_opening.symm.trans hmode
      obtain ⟨before, behind, rfl, hbefore, hbehind⟩ := ih rfl hcut.tail hstep
      exact ⟨before, behind, rfl, .opening hbefore, hbehind⟩
  | @token kind spelling rest kinds hspelled hgap h ih =>
    by_cases hfirst : first = []
    · subst hfirst
      obtain rfl : spelling ++ rest = second := htext
      exact ⟨[], kind :: kinds, rfl, .finish, .token hspelled hgap h⟩
    obtain ⟨others, rfl, rfl⟩ | ⟨others, hne, rfl, rfl⟩ := append_eq_append_cut htext
    · obtain ⟨hspelled', hgap'⟩ := hspelled.cut hgap
      have hstep : (ofComment false).sweep others = .code := (sweep_spelled hspelled' hgap').symm.trans hmode
      obtain ⟨before, behind, rfl, hbefore, hbehind⟩ := ih rfl (hcut.drop spelling) hstep
      exact ⟨kind :: before, behind, rfl, .token hspelled' hgap' hbefore, hbehind⟩
    · -- the token would reach over the cut
      exact absurd hmode (hspelled.sweep_cut hfirst hne hcut)

/-! ### The shell's scanner -/

theorem sweep_comment_line {line : List Char} (hline : ∀ c ∈ line, c ≠ '\n') :
    sweep .comment (line ++ ['\n']) = .code := by
  induction line with
  | nil => rfl
  | cons c line ih =>
    obtain ⟨hc, hline⟩ := List.forall_mem_cons.1 hline
    rw [List.cons_append, sweep, if_neg hc]
    exact ih hline

/-- A minus sign at the end of a line is not a comment sign. -/
theorem opens_comment_line (c : Char) (line : List Char) :
    c = '-' ∧ (line ++ ['\n']).head? = some '-' ↔ c = '-' ∧ line.head? = some '-' := by
  cases line <;> simp

/-- Scanning a line is bookkeeping over the line and its end. -/
theorem mode_scan (quote last : Option Char) {line : List Char}
    (hquote : ∀ delimiter ∈ quote, PendingBatch.isDelimiter delimiter = true) (hline : ∀ c ∈ line, c ≠ '\n') :
    ofQuote (PendingBatch.scan quote last line).1 = (ofQuote quote).sweep (line ++ ['\n']) := by
  induction line generalizing quote last with
  | nil =>
    cases quote with
    | none => rfl
    | some delimiter =>
      have hfeed : '\n' ≠ delimiter := by
        rintro rfl
        exact absurd (hquote '\n' rfl) (by decide)
      simp [PendingBatch.scan, ofQuote, sweep, hfeed]
  | cons c line ih =>
    have hrest := (List.forall_mem_cons.1 hline).2
    cases quote with
    | some delimiter =>
      by_cases hc : c = delimiter
      · simpa [PendingBatch.scan, ofQuote, sweep, hc] using ih none (some c) (by simp) hrest
      · simpa [PendingBatch.scan, ofQuote, sweep, hc] using ih (some delimiter) (some c) hquote hrest
    | none =>
      show ofQuote _ = sweep .code (c :: (line ++ ['\n']))
      simp only [sweep, opens_comment_line, PendingBatch.scan]
      by_cases hdelimiter : PendingBatch.isDelimiter c = true
      · rw [if_pos hdelimiter, if_pos hdelimiter]
        exact ih (some c) (some c) (by simpa using hdelimiter) hrest
      · rw [if_neg hdelimiter, if_neg hdelimiter]
        by_cases hsign : c = '-' ∧ line.head? = some '-'
        · rw [if_pos hsign, if_pos hsign]
          exact (sweep_comment_line hrest).symm
        · rw [if_neg hsign, if_neg hsign]
          split
          · exact ih none last (by simp) hrest
          · exact ih none (some c) (by simp) hrest

/-! ### The lines collected so far -/

/-- The batch has whole lines, and its quote is the one that they leave open. -/
structure PendingBatch.Collected (pending : PendingBatch) : Prop where
  lines : pending.text.toList = [] ∨ pending.text.toList.getLast? = some '\n'
  mode : sweep .code pending.text.toList = ofQuote pending.quote

namespace PendingBatch

variable {pending : PendingBatch} {line : List Char}

theorem collected_empty : empty.Collected :=
  ⟨.inl rfl, rfl⟩

theorem toList_text_append_line (pending : PendingBatch) (line : List Char) :
    (pending.text ++ String.ofList line ++ "\n").toList = pending.text.toList ++ (line ++ ['\n']) := by
  simp

theorem Collected.isDelimiter (h : pending.Collected) :
    ∀ delimiter ∈ pending.quote, PendingBatch.isDelimiter delimiter = true := by
  intro delimiter hdelimiter
  have hmode := h.mode
  rw [Option.mem_def.1 hdelimiter] at hmode
  exact isDelimiter_of_sweep hmode (by simp)

/-- No comment sign stands across the end of a line, so more text may be swept on its own. -/
theorem Collected.sweep_append (h : pending.Collected) (text : List Char) :
    sweep .code (pending.text.toList ++ text) = (ofQuote pending.quote).sweep text := by
  rw [Mode.sweep_append (.inl ?_), h.mode]
  rcases h.lines with hlines | hlines <;> simp [hlines]

theorem Collected.sweep_line (h : pending.Collected) (hline : ∀ c ∈ line, c ≠ '\n') :
    sweep .code (pending.text.toList ++ (line ++ ['\n'])) = ofQuote (scan pending.quote none line).1 := by
  rw [h.sweep_append, mode_scan pending.quote none h.isDelimiter hline]

/-- One more line may be collected. -/
theorem Collected.append_line (h : pending.Collected) (hline : ∀ c ∈ line, c ≠ '\n') :
    Collected ⟨pending.text ++ String.ofList line ++ "\n", (scan pending.quote none line).1⟩ where
  lines := .inr (by rw [toList_text_append_line]; simp)
  mode := by rw [toList_text_append_line, h.sweep_line hline]

end PendingBatch

end SqlShell
