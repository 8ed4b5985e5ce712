import Mathlib.Data.List.Forall2
import SqlShell.Numeral.Value
import SqlShell.Proofs.Parsing.Gap
/-!
# The case of letters

Outside quotes the case of ASCII letters says nothing. A text whose letters have another case there has the same tokens
at the same locations; only numbers keep the letter of their exponent as it stands, and their value does not depend on
it (`lex_of_recased`). Everything that the lexer asks about a character gives the same answer for a capital and for its
small letter (`eq_toLower_of_ascii`), so the two texts are cut into gaps and tokens at the same places, and each way to
write a token allows for either case.
-/

namespace SqlShell

open Text

variable {c d : Char} {text other rest otherRest gap otherGap : List Char} {p : Char → Bool}

/-! ### Characters -/

theorem toLower_of_not_ascii (h : ¬c.toNat < 0x80) : c.toLower = c := by
  have hupper : ¬(c.val ≥ 'A'.val ∧ c.val ≤ 'Z'.val) := by
    rintro ⟨-, hle⟩
    have hcode : c.toNat ≤ 90 := UInt32.le_iff_toNat_le.1 hle
    omega
  exact dif_neg hupper

/-- What is the same for each ASCII capital and its small letter is the same for a character and its lower case. -/
theorem eq_toLower_of_ascii {α : Type} {f : Char → α}
    (h : ∀ code < 0x80, f (Char.ofNat code).toLower = f (Char.ofNat code)) (c : Char) : f c.toLower = f c := by
  by_cases hc : c.toNat < 0x80
  · rw [← Char.ofNat_toNat c]
    exact h _ hc
  · rw [toLower_of_not_ascii hc]

/-- The test does not tell a capital from its small letter. -/
def IgnoresCase (p : Char → Bool) : Prop :=
  ∀ c : Char, p c.toLower = p c

theorem IgnoresCase.eq (hp : IgnoresCase p) (h : d.toLower = c.toLower) : p d = p c := by
  rw [← hp d, h, hp c]

theorem ignoresCase_isBlank : IgnoresCase isBlank :=
  eq_toLower_of_ascii (by decide +kernel)

theorem ignoresCase_isNameChar : IgnoresCase isNameChar :=
  eq_toLower_of_ascii (by decide +kernel)

theorem ignoresCase_isNameStart : IgnoresCase isNameStart :=
  eq_toLower_of_ascii (by decide +kernel)

theorem ignoresCase_isAlpha : IgnoresCase Char.isAlpha :=
  eq_toLower_of_ascii (by decide)

theorem ignoresCase_isTail : IgnoresCase Numeral.isTail :=
  eq_toLower_of_ascii (by decide)

theorem ignoresCase_isMarker : IgnoresCase Numeral.isMarker :=
  eq_toLower_of_ascii (by decide)

theorem ignoresCase_grows (s : Symbol) : IgnoresCase s.grows := by
  cases s <;> exact eq_toLower_of_ascii (by decide)

theorem lower_toLower (c : Char) : lower c.toLower = lower c :=
  eq_toLower_of_ascii (by decide +kernel) c

theorem toLower_toLower (c : Char) : c.toLower.toLower = c.toLower :=
  eq_toLower_of_ascii (by decide +kernel) c

theorem toLower_of_not_isAlpha (h : c.isAlpha = false) : c.toLower = c := by
  have hall : ∀ code < 0x80, (Char.ofNat code).isAlpha = false → (Char.ofNat code).toLower = Char.ofNat code := by
    decide
  by_cases hc : c.toNat < 0x80
  · rw [← Char.ofNat_toNat c] at h ⊢
    exact hall _ hc h
  · exact toLower_of_not_ascii hc

/-- A character that is no letter has no other case. -/
theorem eq_of_toLower_eq (hc : c.isAlpha = false) (h : d.toLower = c.toLower) : d = c := by
  have hd : d.isAlpha = false := by rw [ignoresCase_isAlpha.eq h, hc]
  rw [← toLower_of_not_isAlpha hd, h, toLower_of_not_isAlpha hc]

theorem eq_iff_of_toLower_eq {sign : Char} (hsign : sign.isAlpha = false) (h : d.toLower = c.toLower) :
    d = sign ↔ c = sign := by
  constructor
  · rintro rfl
    exact eq_of_toLower_eq hsign h.symm
  · rintro rfl
    exact eq_of_toLower_eq hsign h

theorem ignoresCase_beq {sign : Char} (hsign : sign.isAlpha = false) : IgnoresCase (· == sign) := by
  intro c
  rw [Bool.eq_iff_iff, beq_iff_eq, beq_iff_eq]
  exact eq_iff_of_toLower_eq hsign (toLower_toLower c)

/-! ### Texts -/

/-- The texts are the same up to the case of ASCII letters. -/
def SameLetters (text other : List Char) : Prop :=
  other.map Char.toLower = text.map Char.toLower

namespace SameLetters

theorem length_eq (h : SameLetters text other) : other.length = text.length := by
  simpa using congrArg List.length h

theorem append (h : SameLetters text other) (hrest : SameLetters rest otherRest) :
    SameLetters (text ++ rest) (other ++ otherRest) := by
  rw [SameLetters, List.map_append, List.map_append, h, hrest]

theorem eq_nil (h : SameLetters [] other) : other = [] :=
  List.map_eq_nil_iff.1 h

theorem eq_cons (h : SameLetters (c :: text) other) :
    ∃ d rest, other = d :: rest ∧ d.toLower = c.toLower ∧ SameLetters text rest :=
  List.map_eq_cons_iff.1 h

theorem stops (h : SameLetters text other) (hp : IgnoresCase p) (hstops : Stops p text) : Stops p other := by
  cases text with
  | nil => exact h.eq_nil ▸ stops_nil
  | cons c text =>
    obtain ⟨d, rest, rfl, hletter, -⟩ := h.eq_cons
    exact stops_cons.2 ((hp.eq hletter).trans (stops_cons.1 hstops))

theorem forall_mem (h : SameLetters text other) (hp : IgnoresCase p) (hall : ∀ c ∈ text, p c = true) :
    ∀ d ∈ other, p d = true := by
  have hmap (text : List Char) : (text.map Char.toLower).all p = text.all p := by
    rw [List.all_map]
    exact List.all_congr rfl hp
  rw [← List.all_eq_true, ← hmap, h, hmap, List.all_eq_true]
  exact hall

/-- Characters that are no letters are the same in both texts. -/
theorem eq_of_forall_not_isAlpha (h : SameLetters text other) (hall : ∀ c ∈ text, c.isAlpha = false) : other = text := by
  induction text generalizing other with
  | nil => exact h.eq_nil
  | cons c text ih =>
    obtain ⟨d, rest, rfl, hletter, hrest⟩ := h.eq_cons
    obtain ⟨hc, hall⟩ := List.forall_mem_cons.1 hall
    rw [eq_of_toLower_eq hc hletter, ih hrest hall]

theorem after_eq (h : SameLetters text other) (l : Location) : l.after other = l.after text := by
  induction text generalizing other l with
  | nil => rw [h.eq_nil]
  | cons c text ih =>
    obtain ⟨d, rest, rfl, hletter, hrest⟩ := h.eq_cons
    have hfeed : d = '\n' ↔ c = '\n' := eq_iff_of_toLower_eq (by decide) hletter
    rw [Location.after_cons, Location.after_cons, ih hrest, Location.next, Location.next]
    simp only [hfeed]

end SameLetters

/-! ### Gaps -/

/-- A text in lower case is cut at the same place. -/
theorem splitGap_map_toLower (inComment : Bool) (text : List Char) :
    splitGap inComment (text.map Char.toLower) =
      ((splitGap inComment text).1.map Char.toLower, (splitGap inComment text).2.map Char.toLower) := by
  have hsign {sign : Char} (hsign : sign.isAlpha = false) (c : Char) : c.toLower = sign ↔ c = sign :=
    eq_iff_of_toLower_eq hsign (toLower_toLower c)
  have hfeed (c : Char) : (c.toLower != '\n') = (c != '\n') := by
    rw [Bool.eq_iff_iff, bne_iff_ne, bne_iff_ne, ne_eq, ne_eq, hsign (by decide)]
  fun_induction splitGap inComment text with
  | case1 => rfl
  | case2 c rest gap after hsplit ih =>
    rw [hsplit] at ih
    simp [splitGap, hfeed, ih]
  | case3 inComment c rest hcomment hblank gap after hsplit ih =>
    rw [hsplit] at ih
    simp [splitGap, hcomment, hblank, ignoresCase_isBlank c, ih]
  | case4 inComment c rest hcomment hblank hopens gap after hsplit ih =>
    rw [hsplit] at ih
    obtain ⟨rfl, hrest⟩ := hopens
    have hblank : isBlank '-' = false := by decide
    simp [splitGap, hcomment, hblank, hrest, ih]
  | case5 inComment c rest hcomment hblank hopens =>
    simp [splitGap, hcomment, hblank, ignoresCase_isBlank c, hsign, hopens]

/-- What is cut off as a gap in one text is cut off in the other one. -/
theorem SameLetters.splitGap_eq (hgap : SameLetters gap otherGap) (hrest : SameLetters rest otherRest)
    (h : splitGap false (gap ++ rest) = (gap, rest)) :
    splitGap false (otherGap ++ otherRest) = (otherGap, otherRest) := by
  have hcut := splitGap_map_toLower false (otherGap ++ otherRest)
  rw [hgap.append hrest, splitGap_map_toLower, h, Prod.mk.injEq] at hcut
  have hlength : (splitGap false (otherGap ++ otherRest)).1.length = otherGap.length := by
    rw [hgap.length_eq]
    simpa using congrArg List.length hcut.1.symm
  exact Prod.ext_iff.2 (List.append_inj (splitGap_append false _) hlength)

/-! ### Numbers -/

/-- The same kind of token, but that a number may have the other one of its exponent letters. -/
inductive Token.Kind.Alike : Token.Kind → Token.Kind → Prop
  | same (kind : Token.Kind) : Alike kind kind
  | numeral {mantissa written : List Char} {letter other : Char}
      (hmantissa : ∀ c ∈ mantissa, Numeral.isMarker c = false) (hletter : Numeral.isMarker letter = true)
      (hother : Numeral.isMarker other = true) :
      Alike (.numeral (String.ofList (mantissa ++ letter :: written)))
        (.numeral (String.ofList (mantissa ++ other :: written)))

namespace Numeral

theorem not_isAlpha_of_isDigit (h : c.isDigit = true) : c.isAlpha = false :=
  of_isDigit (p := (Char.isAlpha · = false)) (by decide) h

theorem not_isAlpha_of_isSign (h : isSign c = true) : c.isAlpha = false := by
  simp only [isSign, Bool.or_eq_true, beq_iff_eq] at h
  rcases h with rfl | rfl <;> decide

theorem not_isMarker_of_not_isAlpha (h : c.isAlpha = false) : isMarker c = false := by
  cases hmarker : isMarker c with
  | false => rfl
  | true =>
    simp only [isMarker, Bool.or_eq_true, beq_iff_eq] at hmarker
    rcases hmarker with rfl | rfl <;> exact absurd h (by decide)

theorem IsMantissa.not_isAlpha {mantissa : List Char} (h : IsMantissa mantissa) : ∀ c ∈ mantissa, c.isAlpha = false := by
  intro c hc
  cases h with
  | whole hne hds => exact not_isAlpha_of_isDigit (hds c hc)
  | point hds hfs hne =>
    rcases List.mem_append.1 hc with hc | hc
    · exact not_isAlpha_of_isDigit (hds c hc)
    · rcases List.mem_cons.1 hc with rfl | hc
      · decide
      · exact not_isAlpha_of_isDigit (hfs c hc)

/-- With the other case of its letter, an exponent is the same behind the letter. -/
theorem IsExponent.exists_of_sameLetters {exponent : List Char} (h : IsExponent exponent)
    (hsame : SameLetters exponent other) :
    exponent = [] ∧ other = [] ∨ ∃ letter otherLetter written, isMarker letter = true ∧ isMarker otherLetter = true ∧
      exponent = letter :: written ∧ other = otherLetter :: written ∧ IsExponent other := by
  cases h with
  | absent => exact .inl ⟨rfl, hsame.eq_nil⟩
  | @written letter mark ds hletter hmark hne hds =>
    obtain ⟨otherLetter, rest, rfl, hcase, hrest⟩ := hsame.eq_cons
    have hall : ∀ c ∈ mark ++ ds, c.isAlpha = false := by
      intro c hc
      rcases List.mem_append.1 hc with hc | hc
      · rcases hmark with rfl | ⟨sign, hsign, rfl⟩
        · simp at hc
        · exact List.mem_singleton.1 hc ▸ not_isAlpha_of_isSign hsign
      · exact not_isAlpha_of_isDigit (hds c hc)
    obtain rfl := hrest.eq_of_forall_not_isAlpha hall
    have hother : isMarker otherLetter = true := (ignoresCase_isMarker.eq hcase).trans hletter
    exact .inr ⟨letter, otherLetter, mark ++ ds, hletter, hother, rfl, rfl, .written hother hmark hne hds⟩

theorem IsNumber.of_sameLetters (h : IsNumber text) (hsame : SameLetters text other) :
    IsNumber other ∧ Token.Kind.Alike (.numeral (String.ofList text)) (.numeral (String.ofList other)) := by
  obtain ⟨mantissa, exponent, hmantissa, hexponent, rfl⟩ := h
  obtain ⟨mantissa', exponent', rfl, hsameMantissa, hsameExponent⟩ :=
    List.map_eq_append_iff.1 (hsame.trans List.map_append)
  obtain rfl := SameLetters.eq_of_forall_not_isAlpha hsameMantissa hmantissa.not_isAlpha
  rcases hexponent.exists_of_sameLetters hsameExponent with ⟨rfl, rfl⟩ |
    ⟨letter, otherLetter, written, hletter, hother, rfl, rfl, hwritten⟩
  · exact ⟨⟨mantissa', [], hmantissa, .absent, rfl⟩, .same _⟩
  · exact ⟨⟨mantissa', _, hmantissa, hwritten, rfl⟩,
      .numeral (fun c hc => not_isMarker_of_not_isAlpha (hmantissa.not_isAlpha c hc)) hletter hother⟩

theorem mantissaText_of_marker {mantissa : List Char} (written : List Char)
    (hmantissa : ∀ c ∈ mantissa, isMarker c = false) (hletter : isMarker c = true) :
    mantissaText (mantissa ++ c :: written) = mantissa ∧
      (mantissa ++ c :: written).dropWhile (!isMarker ·) = c :: written := by
  have hrun : ∀ c ∈ mantissa, (!isMarker c) = true := fun c hc => by simp [hmantissa c hc]
  have hstops : Stops (!isMarker ·) (c :: written) := stops_cons.2 (by simp [hletter])
  exact ⟨takeWhile_append hrun hstops, dropWhile_append hrun hstops⟩

/-- The value of a number does not depend on which letter announces its exponent. -/
theorem toInt64_of_alike {text other : String} (h : Token.Kind.Alike (.numeral text) (.numeral other))
    (negative : Bool) : toInt64 other.toList negative = toInt64 text.toList negative := by
  cases h with
  | same => rfl
  | @numeral mantissa written letter otherLetter hmantissa hletter hother =>
    obtain ⟨hfront, hbehind⟩ := mantissaText_of_marker written hmantissa hletter
    obtain ⟨hotherFront, hotherBehind⟩ := mantissaText_of_marker written hmantissa hother
    rw [String.toList_ofList, String.toList_ofList, toInt64, toInt64, exponentValue?, exponentValue?, hfront, hotherFront,
      hbehind, hotherBehind]

end Numeral

/-! ### Tokens -/

/-- The characters that quoted tokens start and end with. -/
def isDelimiter (c : Char) : Bool :=
  c == '\'' || c == '"' || c == '\x60'

/-- A text literal or a quoted name. -/
def Lexeme.isQuoted (lexeme : Lexeme) : Bool :=
  lexeme.spelling.head?.any isDelimiter

theorem ofWord?_of_sameLetters (h : SameLetters text other) :
    Token.Kind.ofWord? other = Token.Kind.ofWord? text := by
  rw [Token.Kind.ofWord?, Token.Kind.ofWord?, h]

theorem bareName_of_sameLetters (h : SameLetters text other) : bareName other = bareName text := by
  have hlower (text : List Char) : (text.map Char.toLower).flatMap lower = text.flatMap lower := by
    rw [List.flatMap_map]
    exact congrArg (List.flatMap · text) (funext lower_toLower)
  rw [bareName, bareName, ← hlower, h, hlower]

/-- Each way to write a token allows for the other case of letters that stand in no quotes. -/
theorem Token.Kind.Spelled.of_sameLetters {kind : Token.Kind} {spelling : List Char} (h : kind.Spelled spelling rest)
    (hsame : SameLetters spelling other) (hquoted : spelling.head?.any isDelimiter = true → other = spelling)
    (hrest : SameLetters rest otherRest) : ∃ found, kind.Alike found ∧ found.Spelled other otherRest := by
  cases h with
  | word hrun hkind hstops =>
    exact ⟨kind, .same kind, .word (hsame.forall_mem ignoresCase_isNameChar hrun)
      ((ofWord?_of_sameLetters hsame).trans hkind) (hrest.stops ignoresCase_isNameChar hstops)⟩
  | symbol s hstops =>
    have hsigns : s.spelling.toList.all (!·.isAlpha) = true := by cases s <;> decide
    obtain rfl := hsame.eq_of_forall_not_isAlpha (by simpa using hsigns)
    exact ⟨_, .same _, .symbol s (hrest.stops (ignoresCase_grows s) hstops)⟩
  | string contents hstops =>
    obtain rfl := hquoted rfl
    exact ⟨_, .same _, .string contents (hrest.stops (ignoresCase_beq (by decide)) hstops)⟩
  | @quotedName delimiter name _ hdelimiter hstops =>
    obtain rfl := hquoted (by rcases hdelimiter with rfl | rfl <;> rfl)
    have hsign : delimiter.isAlpha = false := by rcases hdelimiter with rfl | rfl <;> decide
    exact ⟨_, .same _, .quotedName name hdelimiter (hrest.stops (ignoresCase_beq hsign) hstops)⟩
  | bareName hfirst hrun hkind hstops =>
    have hname := bareName_of_sameLetters hsame
    have hword := ofWord?_of_sameLetters hsame
    obtain ⟨otherFirst, otherRun, rfl, hletter, hsameRun⟩ := hsame.eq_cons
    rw [← hname]
    exact ⟨_, .same _, .bareName ((ignoresCase_isNameStart.eq hletter).trans hfirst)
      (SameLetters.forall_mem hsameRun ignoresCase_isNameChar hrun) (hword.trans hkind)
      (hrest.stops ignoresCase_isNameChar hstops)⟩
  | numeral htext hstops =>
    obtain ⟨hother, halike⟩ := htext.of_sameLetters hsame
    exact ⟨_, halike, .numeral hother (hrest.stops ignoresCase_isTail hstops)⟩

/-! ### Inside quotes -/

/-- The characters of a text, each with whether it stands in a text literal or a quoted name. Behind the place of an
error there are no tokens, and no quotes either. -/
def markQuoted (text : List Char) : List (Char × Bool) :=
  match _hgap : splitGap false text with
  | (gap, []) => gap.map (·, false)
  | (gap, c :: rest) =>
    match _hread : Lexeme.read? (c :: rest) with
    | none => (gap ++ c :: rest).map (·, false)
    | some lexeme =>
      gap.map (·, false) ++ lexeme.spelling.map (·, lexeme.isQuoted) ++ markQuoted lexeme.rest
termination_by text.length
decreasing_by
  have hle := length_splitGap_le false text
  rw [_hgap] at hle
  exact Nat.lt_of_lt_of_le (Lexeme.read?_tiles _hread).length_lt hle

theorem markQuoted_of_read? {lexeme : Lexeme} (h : splitGap false text = (gap, c :: rest))
    (hread : Lexeme.read? (c :: rest) = some lexeme) :
    markQuoted text = gap.map (·, false) ++ (lexeme.spelling.map (·, lexeme.isQuoted) ++ markQuoted lexeme.rest) := by
  rw [markQuoted]
  split
  · next gap' hgap => simp [h] at hgap
  · next gap' c' rest' hgap =>
    obtain ⟨rfl, rfl, rfl⟩ : gap = gap' ∧ c = c' ∧ rest = rest' := by simpa using h.symm.trans hgap
    split
    · next hnone => simp [hread] at hnone
    · next lexeme' hread' =>
      obtain rfl := Option.some.inj (hread.symm.trans hread')
      rw [List.append_assoc]

/-- Every character of the text is marked. -/
theorem map_fst_markQuoted (text : List Char) : (markQuoted text).map Prod.fst = text := by
  have hmap (run : List Char) (quoted : Bool) : (run.map (·, quoted)).map Prod.fst = run := by
    rw [List.map_map]
    exact List.map_id run
  have htext := splitGap_append false text
  fun_induction markQuoted text with
  | case1 text gap hgap =>
    rw [hgap, List.append_nil] at htext
    rw [hmap, ← htext]
  | case2 text gap c rest hgap hread =>
    rw [hgap] at htext
    rw [hmap, ← htext]
  | case3 text gap c rest hgap lexeme hread ih =>
    rw [hgap, ← (Lexeme.read?_tiles hread).1, ← List.append_assoc] at htext
    rw [List.map_append, List.map_append, hmap, hmap, ih (splitGap_append false _), htext]

/-- The character may stand for a marked one: in quotes it is the same, elsewhere it may have the other case. -/
def Recases (d : Char) (mark : Char × Bool) : Prop :=
  d.toLower = mark.1.toLower ∧ (mark.2 = true → d = mark.1)

instance (d : Char) (mark : Char × Bool) : Decidable (Recases d mark) :=
  inferInstanceAs (Decidable (_ ∧ (_ → _)))

/-- The other text has the same characters in quotes, and the same up to the case of ASCII letters elsewhere. -/
def Recased (text other : List Char) : Prop :=
  List.Forall₂ Recases other (markQuoted text)

instance (text other : List Char) : Decidable (Recased text other) :=
  decidable_of_iff (other.length = (markQuoted text).length ∧
    (other.zip (markQuoted text)).all (fun pair => decide (Recases pair.1 pair.2)) = true) <| by
    simp [Recased, List.forall₂_iff_zip]

theorem sameLetters_of_forall₂ (h : List.Forall₂ (fun d c : Char => d.toLower = c.toLower) other text) :
    SameLetters text other := by
  rwa [SameLetters, ← List.forall₂_eq_eq_eq, List.forall₂_map_left_iff, List.forall₂_map_right_iff]

theorem Recased.sameLetters (h : Recased text other) : SameLetters text other := by
  rw [← map_fst_markQuoted text]
  refine sameLetters_of_forall₂ (List.forall₂_map_right_iff.2 ?_)
  exact List.Forall₂.imp (fun _ _ => And.left) h

theorem exists_append_of_forall₂ {marks more : List (Char × Bool)} (h : List.Forall₂ Recases other (marks ++ more)) :
    ∃ front behind, other = front ++ behind ∧ List.Forall₂ Recases front marks ∧ List.Forall₂ Recases behind more :=
  ⟨_, _, (List.take_append_drop marks.length other).symm, List.forall₂_take_append other marks more h,
    List.forall₂_drop_append other marks more h⟩

theorem of_forall₂_map {quoted : Bool} (h : List.Forall₂ Recases other (text.map (·, quoted))) :
    SameLetters text other ∧ (quoted = true → other = text) := by
  have hletters := List.forall₂_map_right_iff.1 h
  refine ⟨sameLetters_of_forall₂ (List.Forall₂.imp (fun _ _ => And.left) hletters), fun hquoted => ?_⟩
  have hsame : List.Forall₂ Eq other text := List.Forall₂.imp (fun _ _ hletter => hletter.2 hquoted) hletters
  rwa [List.forall₂_eq_eq_eq] at hsame

/-- The pieces of the other text that stand for a gap, a token and what follows them. -/
theorem Recased.exists_pieces {lexeme : Lexeme} (h : Recased text other)
    (hgap : splitGap false text = (gap, c :: rest)) (hread : Lexeme.read? (c :: rest) = some lexeme) :
    ∃ otherGap spelling otherRest, other = otherGap ++ (spelling ++ otherRest) ∧ SameLetters gap otherGap ∧
      SameLetters lexeme.spelling spelling ∧ (lexeme.isQuoted = true → spelling = lexeme.spelling) ∧
      Recased lexeme.rest otherRest := by
  rw [Recased, markQuoted_of_read? hgap hread] at h
  obtain ⟨otherGap, behind, rfl, hsameGap, h⟩ := exists_append_of_forall₂ h
  obtain ⟨spelling, otherRest, rfl, hsame, hrest⟩ := exists_append_of_forall₂ h
  exact ⟨otherGap, spelling, otherRest, rfl, (of_forall₂_map hsameGap).1, (of_forall₂_map hsame).1,
    (of_forall₂_map hsame).2, hrest⟩

/-! ### The lexer -/

/-- A token of the same kind at the same location, but that a number may have the other one of its exponent letters. -/
structure Token.Alike (token other : Token) : Prop where
  location : other.location = token.location
  kind : token.kind.Alike other.kind

/-- From any location on, the lexer finds like tokens in both texts. The induction is on the rounds of the lexer. -/
theorem lexFrom_of_recased {l : Location} {tokens : List Token} (h : Recased text other)
    (hlex : lexFrom l text = .ok tokens) :
    ∃ found, lexFrom l other = .ok found ∧ List.Forall₂ Token.Alike tokens found := by
  fun_induction lexFrom l text generalizing other tokens with
  | case1 l text gap hgap =>
    obtain rfl := Except.ok.inj hlex
    obtain rfl : gap = text := by simpa [hgap] using splitGap_append false text
    have hother : splitGap false (other ++ []) = (other, []) :=
      h.sameLetters.splitGap_eq rfl (by rw [List.append_nil, hgap])
    rw [List.append_nil] at hother
    rw [lexFrom_eq, hother]
    exact ⟨[], rfl, .nil⟩
  | case2 => simp at hlex
  | case3 => simp at hlex
  | case4 l text gap c rest hgap lexeme hread more hmore ih =>
    obtain rfl := Except.ok.inj hlex
    obtain ⟨otherGap, spelling, otherRest, rfl, hsameGap, hsame, hquoted, hrest⟩ := h.exists_pieces hgap hread
    obtain ⟨kind, hkind, hspelled⟩ :=
      (Lexeme.spelled_of_read? hread).of_sameLetters hsame hquoted hrest.sameLetters
    have hcut : splitGap false (otherGap ++ (spelling ++ otherRest)) = (otherGap, spelling ++ otherRest) := by
      refine hsameGap.splitGap_eq (hsame.append hrest.sameLetters) ?_
      rw [(Lexeme.read?_tiles hread).1, ← hgap, ← splitGap_append false text, hgap]
    obtain ⟨found, hfound, halike⟩ := ih hrest hmore
    have hround := lexFrom_of_read? (l.after otherGap) (opensGap_of_splitGap hcut) (Lexeme.read?_of_spelled hspelled)
    rw [← lexFrom_of_splitGap l hcut, hsameGap.after_eq, hsame.after_eq, hfound] at hround
    exact ⟨_, hround, .cons ⟨rfl, hkind⟩ halike⟩

/-- The case of letters outside quotes does not matter: the tokens are the same, at the same locations, but for the
exponent letters of numbers, which do not change their value. -/
theorem lex_of_recased {source other : String} {tokens : List Token} (hlex : lex source = .ok tokens)
    (h : Recased source.toList other.toList) :
    (∃ found, lex other = .ok found ∧ List.Forall₂ Token.Alike tokens found) ∧
      ∀ text spelling : String, Token.Kind.Alike (.numeral text) (.numeral spelling) → ∀ negative,
        Numeral.toInt64 spelling.toList negative = Numeral.toInt64 text.toList negative :=
  ⟨lexFrom_of_recased h hlex, fun _ _ halike negative => Numeral.toInt64_of_alike halike negative⟩

/-- A quoted text keeps the case of its letters; a keyword, an exponent and a comment do not. -/
theorem lex_of_recased_of_exponent :
    lex "Or 1e3 'Ab'--x" = .ok [⟨.keyword .or, ⟨0, 0⟩⟩, ⟨.numeral "1e3", ⟨0, 3⟩⟩, ⟨.string "Ab", ⟨0, 7⟩⟩] ∧
      Recased "Or 1e3 'Ab'--x".toList "oR 1E3 'Ab'--X".toList ∧
      ∃ found, lex "oR 1E3 'Ab'--X" = .ok found ∧
        List.Forall₂ Token.Alike [⟨.keyword .or, ⟨0, 0⟩⟩, ⟨.numeral "1e3", ⟨0, 3⟩⟩, ⟨.string "Ab", ⟨0, 7⟩⟩] found := by
  have hlex : lex "Or 1e3 'Ab'--x" =
      .ok [⟨.keyword .or, ⟨0, 0⟩⟩, ⟨.numeral "1e3", ⟨0, 3⟩⟩, ⟨.string "Ab", ⟨0, 7⟩⟩] := by
    decide +kernel
  have hrecased : Recased "Or 1e3 'Ab'--x".toList "oR 1E3 'Ab'--X".toList := by
    decide +kernel
  exact ⟨hlex, hrecased, (lex_of_recased hlex hrecased).1⟩

end SqlShell
