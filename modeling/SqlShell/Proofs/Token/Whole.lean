import SqlShell.Proofs.Parsing.Gap
import SqlShell.Proofs.Token.Cursor
/-!
# Words and signs are taken whole

`TokenStart source tokens l text` says that the lexer has found the tokens in a source and stands in front of the text,
at the location `l` and behind a gap. Every token of a source stands at such a start (`TokenStart.exists_of_lex`). What
the lexer does there is told by the text alone: a run of name characters is one token, however it starts, and of the
signs that the text starts with it takes the longest (`TokenStart.takes_whole`). The first holds since no keyword can
end inside such a run, the second since a sign that is followed by more of a longer one is not read as itself.
-/

namespace SqlShell

open Text

variable {source : String} {tokens : List Token} {l : Location} {kind : Token.Kind}
  {text word spelling rest : List Char} {s : Symbol}

/-! ### Token starts -/

/-- The lexer has found the tokens and stands in front of the text, with no gap in between. -/
inductive TokenStart (source : String) : List Token → Location → List Char → Prop
  | first {gap text : List Char} (hgap : splitGap false source.toList = (gap, text)) :
      TokenStart source [] (Location.start.after gap) text
  | next {tokens : List Token} {l : Location} {text gap rest : List Char} {lexeme : Lexeme}
      (h : TokenStart source tokens l text) (hread : Lexeme.read? text = some lexeme)
      (hgap : splitGap false lexeme.rest = (gap, rest)) :
      TokenStart source (tokens ++ [⟨lexeme.kind, l⟩]) ((l.after lexeme.spelling).after gap) rest

theorem TokenStart.opensGap_eq_false (h : TokenStart source tokens l text) : opensGap text = false := by
  cases h with
  | first hgap => exact opensGap_of_splitGap hgap
  | next _ _ hgap => exact opensGap_of_splitGap hgap

/-- The lexer goes on behind the tokens that it has found. -/
theorem TokenStart.lex_eq (h : TokenStart source tokens l text) :
    lex source = (lexFrom l text).map fun more => tokens ++ more := by
  induction h with
  | @first gap text hgap =>
    rw [lex, lexFrom_of_splitGap _ hgap]
    cases lexFrom (Location.start.after gap) text <;> rfl
  | @next tokens l text gap rest lexeme h hread hgap ih =>
    rw [ih, lexFrom_of_read? l h.opensGap_eq_false hread, lexFrom_of_splitGap _ hgap]
    cases lexFrom ((l.after lexeme.spelling).after gap) rest <;> simp [Except.map]

/-- In front of the text the lexer finds a token of the kind, spelled by these characters, and goes on behind them. -/
structure Produces (source : String) (tokens : List Token) (l : Location) (text : List Char) (kind : Token.Kind)
    (spelling rest : List Char) : Prop where
  read : Lexeme.read? text = some ⟨kind, spelling, rest⟩
  lexed : lex source = (lexFrom (l.after spelling) rest).map fun more => tokens ++ ⟨kind, l⟩ :: more

theorem TokenStart.produces (h : TokenStart source tokens l (spelling ++ rest)) (hspelled : kind.Spelled spelling rest) :
    Produces source tokens l (spelling ++ rest) kind spelling rest := by
  have hread := Lexeme.read?_of_spelled hspelled
  refine ⟨hread, ?_⟩
  rw [h.lex_eq, lexFrom_of_read? l h.opensGap_eq_false hread]
  cases lexFrom (l.after spelling) rest <;> rfl

/-- Where no gap comes first, the first token that is found stands at the start of the text. -/
theorem read?_of_lexFrom {token : Token} {behind : List Token} (hgap : opensGap text = false)
    (h : lexFrom l text = .ok (token :: behind)) :
    ∃ spelling rest, Lexeme.read? text = some ⟨token.kind, spelling, rest⟩ ∧ token.location = l ∧
      lexFrom (l.after spelling) rest = .ok behind := by
  cases hread : Lexeme.read? text with
  | none =>
    rw [lexFrom_eq, splitGap_of_not_opensGap hgap] at h
    cases text <;> simp [hread] at h
  | some lexeme =>
    rw [lexFrom_of_read? l hgap hread] at h
    cases hmore : lexFrom (l.after lexeme.spelling) lexeme.rest with
    | error e => simp [hmore, Except.map] at h
    | ok more =>
      obtain ⟨rfl, rfl⟩ : ⟨lexeme.kind, l⟩ = token ∧ more = behind := by simpa [hmore, Except.map] using h
      exact ⟨lexeme.spelling, lexeme.rest, rfl, rfl, hmore⟩

/-- The lexer finds every further token at a start too. -/
theorem TokenStart.exists_of_lexFrom {found front behind : List Token} {token : Token}
    (h : TokenStart source found l text) (hlex : lexFrom l text = .ok (front ++ token :: behind)) :
    ∃ text spelling rest, TokenStart source (found ++ front) token.location text ∧
      Lexeme.read? text = some ⟨token.kind, spelling, rest⟩ := by
  induction front generalizing found l text with
  | nil =>
    obtain ⟨spelling, rest, hread, rfl, -⟩ := read?_of_lexFrom h.opensGap_eq_false hlex
    exact ⟨text, spelling, rest, by simpa using h, hread⟩
  | cons first front ih =>
    obtain ⟨spelling, rest, hread, rfl, hrest⟩ := read?_of_lexFrom h.opensGap_eq_false hlex
    obtain ⟨gap, text', hgap⟩ : ∃ gap text', splitGap false rest = (gap, text') := ⟨_, _, rfl⟩
    rw [lexFrom_of_splitGap _ hgap] at hrest
    simpa using ih (h.next hread hgap) hrest

/-- Every token of a source stands at such a start. -/
theorem TokenStart.exists_of_lex {front behind : List Token} {token : Token}
    (h : lex source = .ok (front ++ token :: behind)) :
    ∃ text spelling rest, TokenStart source front token.location text ∧
      Lexeme.read? text = some ⟨token.kind, spelling, rest⟩ := by
  obtain ⟨gap, text, hgap⟩ : ∃ gap text, splitGap false source.toList = (gap, text) := ⟨_, _, rfl⟩
  rw [lex, lexFrom_of_splitGap _ hgap] at h
  exact (TokenStart.first hgap).exists_of_lexFrom h

/-! ### Words -/

/-- What a run of name characters is: the keyword or truth value that it spells up to the case of ASCII letters, and
otherwise a name, in lower case. -/
inductive Token.Kind.OfWord (word : List Char) : Token.Kind → Prop
  | keyword (k : Keyword) (h : word.map Char.toLower = k.spelling.toList) : OfWord word (.keyword k)
  | boolean (value : Bool) (h : word.map Char.toLower = (truthSpelling value).toList) : OfWord word (.boolean value)
  | name (hkeyword : ∀ k : Keyword, word.map Char.toLower ≠ k.spelling.toList)
      (hboolean : ∀ value, word.map Char.toLower ≠ (truthSpelling value).toList) :
      OfWord word (.identifier (String.ofList (word.flatMap lower)))

namespace Token.Kind

theorem boolean_mem_fixed (value : Bool) : .boolean value ∈ fixed := by
  cases value <;> decide

/-- A run is a name if no keyword and no truth value is read from it. -/
theorem ofWord_iff : kind.OfWord word ↔
    ofWord? word = some kind ∨
      ofWord? word = none ∧ kind = .identifier (String.ofList (word.flatMap lower)) := by
  constructor
  · rintro (⟨k, hk⟩ | ⟨value, hvalue⟩ | ⟨hkeyword, hboolean⟩)
    · exact .inl (ofWord?_eq_some_iff.2 ⟨keyword_mem_fixed k, rfl, hk⟩)
    · exact .inl (ofWord?_eq_some_iff.2 ⟨boolean_mem_fixed value, rfl, hvalue⟩)
    · refine .inr ⟨?_, rfl⟩
      cases hfound : ofWord? word with
      | none => rfl
      | some found =>
        obtain ⟨-, -, hspelling⟩ := ofWord?_eq_some_iff.1 hfound
        rcases (ofWord?_eq_some hfound).1 with ⟨k, rfl⟩ | ⟨value, rfl⟩
        · exact absurd hspelling (hkeyword k)
        · exact absurd hspelling (hboolean value)
  · rintro (hfound | ⟨hnone, rfl⟩)
    · obtain ⟨-, -, hspelling⟩ := ofWord?_eq_some_iff.1 hfound
      rcases (ofWord?_eq_some hfound).1 with ⟨k, rfl⟩ | ⟨value, rfl⟩
      · exact .keyword k hspelling
      · exact .boolean value hspelling
    · refine .name (fun k hk => ?_) (fun value hvalue => ?_)
      · simp [ofWord?_eq_some_iff.2 ⟨keyword_mem_fixed k, rfl, hk⟩] at hnone
      · simp [ofWord?_eq_some_iff.2 ⟨boolean_mem_fixed value, rfl, hvalue⟩] at hnone

theorem exists_ofWord (word : List Char) : ∃ kind : Token.Kind, kind.OfWord word := by
  cases hfound : ofWord? word with
  | some kind => exact ⟨kind, ofWord_iff.2 (.inl hfound)⟩
  | none => exact ⟨_, ofWord_iff.2 (.inr ⟨hfound, rfl⟩)⟩

end Token.Kind

/-- The longest run of name characters at the start of a text, which starts like a name. -/
structure StartsWithWord (text word rest : List Char) : Prop where
  text_eq : text = word ++ rest
  head : ∃ first ∈ word.head?, isNameStart first = true
  chars : ∀ c ∈ word, isNameChar c = true
  stops : Stops isNameChar rest

theorem StartsWithWord.spelled (h : StartsWithWord text word rest) (hkind : kind.OfWord word) :
    kind.Spelled word rest := by
  obtain ⟨first, hfirst, hstart⟩ := h.head
  obtain ⟨run, rfl⟩ := List.head?_eq_some_iff.1 hfirst
  rcases Token.Kind.ofWord_iff.1 hkind with hfound | ⟨hnone, rfl⟩
  · exact .word h.chars hfound h.stops
  · exact .bareName hstart (List.forall_mem_cons.1 h.chars).2 hnone h.stops

/-- Among all words and signs with one spelling the search finds the word or nothing. -/
theorem StartsWithWord.longest?_fixed (h : StartsWithWord text word rest) :
    Token.Kind.longest? text Token.Kind.fixed = some (Token.Kind.ofWord? word) := by
  obtain ⟨first, hfirst, hstart⟩ := h.head
  obtain ⟨run, rfl⟩ := List.head?_eq_some_iff.1 hfirst
  have hrun : nameRun text = first :: run := h.text_eq ▸ takeWhile_append h.chars h.stops
  have hsign : Symbol.split? text = none := by
    rw [h.text_eq, List.cons_append]
    exact Symbol.split?_cons_eq_none isNameChar (fun s => by cases s <;> decide) (isNameChar_of_isNameStart hstart)
  rw [Lexeme.longest?_fixed, Lexeme.reserved?, hrun, hsign]
  cases Token.Kind.ofWord? (first :: run) <;> rfl

/-! ### Signs -/

/-- The text starts with the sign and with no longer one. -/
structure Symbol.IsLongest (s : Symbol) (text rest : List Char) : Prop where
  text_eq : text = s.spelling.toList ++ rest
  longest : ∀ other : Symbol, other.spelling.toList <+: text → other.spelling.length ≤ s.spelling.length

/-- The longest sign is not followed by a character that makes it longer. -/
theorem Symbol.IsLongest.stops (h : s.IsLongest text rest) : Stops s.grows rest := by
  intro c hc
  obtain ⟨tail, rfl⟩ := List.head?_eq_some_iff.1 hc
  cases hgrows : s.grows c with
  | false => rfl
  | true =>
    obtain ⟨longer, hspelling, -⟩ := Token.Kind.exists_of_grows hgrows
    have hle := h.longest longer (by rw [h.text_eq, hspelling]; exact ⟨tail, by simp⟩)
    have hlength := congrArg List.length hspelling
    rw [List.length_append, String.length_toList, String.length_toList, List.length_singleton] at hlength
    omega

theorem Symbol.exists_isLongest (h : s.spelling.toList <+: text) : ∃ longest rest, IsLongest longest text rest := by
  cases hsplit : split? text with
  | none => exact absurd h (Token.Kind.not_prefix_of_split? hsplit)
  | some pair =>
    obtain ⟨longest, rest⟩ := pair
    refine ⟨longest, rest, (split?_eq_some_iff.1 hsplit).1, fun other hother => ?_⟩
    rcases Token.Kind.eq_or_length_lt_of_split? hsplit hother with rfl | hlt
    · exact Nat.le_refl _
    · exact Nat.le_of_lt hlt

/-- Among all words and signs with one spelling the search finds the sign. -/
theorem Symbol.IsLongest.longest?_fixed (h : s.IsLongest text rest) :
    Token.Kind.longest? text Token.Kind.fixed = some (some (.symbol s)) := by
  have hsplit : split? text = some (s, rest) := split?_eq_some_iff.2 ⟨h.text_eq, h.stops⟩
  obtain ⟨c, tail, hspelling, hc⟩ := Token.Kind.isNameChar_head_symbol s
  have hrun : nameRun text = [] := by
    rw [h.text_eq, hspelling, List.cons_append, nameRun_cons_of_false hc]
  rw [Lexeme.longest?_fixed, Lexeme.reserved?, hrun, Token.Kind.ofWord?_nil, hsplit]
  rfl

/-! ### Both -/

/-- At the start of a token, a run of name characters that starts like a name is taken whole, as the keyword, the truth
value or the name that it is, and of the signs that come next the longest is taken. -/
theorem TokenStart.takes_whole (h : TokenStart source tokens l text) :
    (∀ word rest, StartsWithWord text word rest →
      Token.Kind.longest? text Token.Kind.fixed = some (Token.Kind.ofWord? word) ∧
      (∃ kind : Token.Kind, kind.OfWord word) ∧
      ∀ kind : Token.Kind, kind.OfWord word → Produces source tokens l text kind word rest) ∧
    ∀ s : Symbol, s.spelling.toList <+: text →
      (∃ longest rest, Symbol.IsLongest longest text rest) ∧
      ∀ longest rest, Symbol.IsLongest longest text rest →
        Token.Kind.longest? text Token.Kind.fixed = some (some (.symbol longest)) ∧
        Produces source tokens l text (.symbol longest) longest.spelling.toList rest := by
  refine ⟨fun word rest hword => ⟨hword.longest?_fixed, Token.Kind.exists_ofWord word, fun kind hkind => ?_⟩,
    fun s hs => ⟨Symbol.exists_isLongest hs, fun longest rest hlongest => ⟨hlongest.longest?_fixed, ?_⟩⟩⟩
  · obtain rfl := hword.text_eq
    exact h.produces (hword.spelled hkind)
  · obtain rfl := hlongest.text_eq
    exact h.produces (.symbol longest hlongest.stops)

/-- A name that starts like a keyword, and a sign that starts with a shorter one. -/
theorem TokenStart.takes_whole_of_ints :
    TokenStart "ints<=1" [] ⟨0, 0⟩ "ints<=1".toList ∧
      Produces "ints<=1" [] ⟨0, 0⟩ "ints<=1".toList (.identifier "ints") "ints".toList "<=1".toList ∧
      TokenStart "ints<=1" [⟨.identifier "ints", ⟨0, 0⟩⟩] ⟨0, 4⟩ "<=1".toList ∧
      Produces "ints<=1" [⟨.identifier "ints", ⟨0, 0⟩⟩] ⟨0, 4⟩ "<=1".toList (.symbol .lessEqual) "<=".toList ['1'] := by
  have hgap : splitGap false "ints<=1".toList = ([], "ints<=1".toList) := by decide
  have hfirst : TokenStart "ints<=1" [] ⟨0, 0⟩ "ints<=1".toList := .first hgap
  have hword : StartsWithWord "ints<=1".toList "ints".toList "<=1".toList :=
    ⟨by decide, ⟨'i', by decide, by decide⟩, List.all_eq_true.1 (by decide), stops_cons.2 (by decide)⟩
  have hname : Token.Kind.OfWord "ints".toList (.identifier "ints") :=
    .name (fun k => by cases k <;> decide) (fun value => by cases value <;> decide)
  have hread := (hfirst.takes_whole.1 _ _ hword).2.2 _ hname
  have hsecond : TokenStart "ints<=1" [⟨.identifier "ints", ⟨0, 0⟩⟩] ⟨0, 4⟩ "<=1".toList :=
    have hnoGap : splitGap false "<=1".toList = ([], "<=1".toList) := by decide
    .next hfirst hread.read hnoGap
  have hsign : Symbol.IsLongest .lessEqual "<=1".toList ['1'] :=
    ⟨by decide, fun other => by cases other <;> decide⟩
  have hless : Symbol.less.spelling.toList <+: "<=1".toList := by decide
  exact ⟨hfirst, hread, hsecond, ((hsecond.takes_whole.2 _ hless).2 _ _ hsign).2⟩

end SqlShell
