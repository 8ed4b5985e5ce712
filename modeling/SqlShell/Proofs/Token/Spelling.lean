import SqlShell.Proofs.Numeral.Written
import SqlShell.Token.Lexeme
/-!
# How tokens are spelled

`Token.Kind.Spelled kind spelling rest` says that the characters `spelling` are the whole of a token of the kind when
they stand in front of the text `rest`. There is one rule for each way to write a token, and each has a condition on
the first character of `rest`, which must not belong to the token. `Lexeme.read?_eq_some_iff` says that reading a
lexeme is exactly this. Everything else about lexemes follows from the rules: that they can be read back, and that the
text behind them may be exchanged as long as its first character stops them too.
-/

namespace SqlShell

open Text

variable {c : Char} {text rest : List Char}

/-! ### Characters -/

theorem code_bounds_of_isDigit (h : c.isDigit = true) : 48 ≤ c.toNat ∧ c.toNat < 58 := by
  simp only [Char.isDigit, Bool.and_eq_true, decide_eq_true_eq] at h
  obtain ⟨hlo, hhi⟩ := h
  exact ⟨hlo, Nat.lt_succ_of_le hhi⟩

/-- What holds of the ten digits holds of every digit. -/
theorem of_isDigit {p : Char → Prop} (hall : ∀ code < 58, 48 ≤ code → p (Char.ofNat code)) (h : c.isDigit = true) :
    p c := by
  obtain ⟨hlo, hhi⟩ := code_bounds_of_isDigit h
  rw [← Char.ofNat_toNat c]
  exact hall _ hhi hlo

theorem not_isNameStart_of_isDigit (h : c.isDigit = true) : isNameStart c = false :=
  of_isDigit (p := (isNameStart · = false)) (by decide) h

theorem toLower_of_isDigit (h : c.isDigit = true) : c.toLower = c :=
  of_isDigit (p := fun c => c.toLower = c) (by decide) h

/-! ### Words -/

/-- A keyword or truth value is spelled by its lower-case text, up to the case of letters. -/
theorem Token.Kind.ofWord?_eq_some {run : List Char} {kind : Token.Kind} (h : ofWord? run = some kind) :
    ((∃ k, kind = .keyword k) ∨ ∃ b, kind = .boolean b) ∧ String.ofList (run.map Char.toLower) = kind.text := by
  rw [ofWord?] at h
  split at h
  · next htrue =>
    obtain rfl := Option.some.inj h
    exact ⟨.inr ⟨_, rfl⟩, htrue⟩
  · split at h
    · next hfalse =>
      obtain rfl := Option.some.inj h
      exact ⟨.inr ⟨_, rfl⟩, hfalse⟩
    · obtain ⟨k, hk, rfl⟩ := Option.map_eq_some_iff.1 h
      have hspelling := List.find?_some hk
      exact ⟨.inl ⟨k, rfl⟩, (of_decide_eq_true hspelling).symm⟩

theorem not_isDigit_head_of_ofWord? {run : List Char} {kind : Token.Kind}
    (h : Token.Kind.ofWord? (c :: run) = some kind) : c.isDigit = false := by
  obtain ⟨hkind, htext⟩ := Token.Kind.ofWord?_eq_some h
  cases hdigit : c.isDigit with
  | false => rfl
  | true =>
    have hhead : kind.text.toList.head? = some c := by
      rw [← htext, String.toList_ofList, List.map_cons, List.head?_cons, toLower_of_isDigit hdigit]
    have hnone : kind.text.toList.head?.any Char.isDigit = false := by
      rcases hkind with ⟨k, rfl⟩ | ⟨b, rfl⟩
      · cases k <;> rfl
      · cases b <;> rfl
    rw [hhead, Option.any_some, hdigit] at hnone
    exact hnone

theorem nameRun_cons_of_false (h : isNameChar c = false) : nameRun (c :: text) = [] := by
  rw [nameRun, List.takeWhile_cons_of_neg (by simp [h])]

theorem forall_mem_nameRun (text : List Char) : ∀ c ∈ nameRun text, isNameChar c = true :=
  fun _ hc => of_mem_takeWhile hc

/-! ### Signs -/

/-- The characters that make a longer sign of a sign. -/
def Symbol.grows : Symbol → Char → Bool
  | .less, c => c == '>' || c == '='
  | .greater, c => c == '='
  | _, _ => false

/-- The sign at the start of a text is the longest one. -/
theorem Symbol.split?_eq_some_iff {s : Symbol} :
    split? text = some (s, rest) ↔ text = s.spelling.toList ++ rest ∧ Stops s.grows rest := by
  constructor
  · intro h
    refine ⟨(split?_tiles h).symm, ?_⟩
    unfold split? at h
    split at h <;> simp only [Option.some.injEq, Prod.mk.injEq, reduceCtorEq] at h <;> obtain ⟨rfl, rfl⟩ := h
    case h_3 tail hunequal hlessEqual =>
      cases tail with
      | nil => exact stops_nil
      | cons c tail =>
        have hc : c ≠ '>' ∧ c ≠ '=' := ⟨fun h => hunequal tail (by rw [h]), fun h => hlessEqual tail (by rw [h])⟩
        exact stops_cons.2 (by simp [grows, hc])
    case h_5 tail hgreaterEqual =>
      cases tail with
      | nil => exact stops_nil
      | cons c tail =>
        have hc : c ≠ '=' := fun h => hgreaterEqual tail (by rw [h])
        exact stops_cons.2 (by simp [grows, hc])
    all_goals exact fun _ _ => rfl
  · rintro ⟨rfl, hrest⟩
    cases s
    case less =>
      cases rest with
      | nil => rfl
      | cons c rest =>
        have hc : c ≠ '>' ∧ c ≠ '=' := by simpa [grows] using stops_cons.1 hrest
        show split? ('<' :: c :: rest) = _
        simp [split?, hc]
    case greater =>
      cases rest with
      | nil => rfl
      | cons c rest =>
        have hc : c ≠ '=' := by simpa [grows] using stops_cons.1 hrest
        show split? ('>' :: c :: rest) = _
        simp [split?, hc]
    all_goals rfl

/-- No sign is read where the text starts with a character that no sign starts with. -/
theorem Symbol.split?_cons_eq_none (p : Char → Bool) (hp : ∀ s : Symbol, s.spelling.toList.head?.any p = false)
    (h : p c = true) : split? (c :: text) = none := by
  cases hsplit : split? (c :: text) with
  | none => rfl
  | some pair =>
    obtain ⟨s, rest⟩ := pair
    have htiles := split?_tiles hsplit
    have hs := hp s
    cases hspelling : s.spelling.toList with
    | nil => cases s <;> simp [Symbol.spelling] at hspelling
    | cons d tail =>
      rw [hspelling] at htiles hs
      obtain ⟨rfl, -⟩ := List.cons.inj htiles
      simp [h] at hs

/-! ### Quoted runs -/

theorem Quoted.stops_of_contents? {delimiter : Char} {contents after : List Char}
    (h : contents? delimiter text = some (contents, after)) : Stops (· == delimiter) after := by
  fun_induction contents? delimiter text generalizing contents after with
  | case1 => simp at h
  | case2 =>
    obtain ⟨-, rfl⟩ := Prod.mk.inj (Option.some.inj h)
    exact stops_nil
  | case3 => simp at h
  | case4 rest ih =>
    obtain ⟨⟨inner, tail⟩, hinner, hpair⟩ := Option.map_eq_some_iff.1 h
    obtain ⟨-, rfl⟩ := Prod.mk.inj hpair
    exact ih hinner
  | case5 d rest hd =>
    obtain ⟨-, rfl⟩ := Prod.mk.inj (Option.some.inj h)
    exact stops_cons.2 (by simpa using hd)
  | case6 c d rest hc ih =>
    obtain ⟨⟨inner, tail⟩, hinner, hpair⟩ := Option.map_eq_some_iff.1 h
    obtain ⟨-, rfl⟩ := Prod.mk.inj hpair
    exact ih hinner

theorem Quoted.contents?_double {delimiter : Char} (contents : List Char) (hrest : Stops (· == delimiter) rest) :
    contents? delimiter (double delimiter contents ++ delimiter :: rest) = some (contents, rest) := by
  induction contents with
  | nil =>
    cases rest with
    | nil => simp [double, contents?]
    | cons c rest =>
      have hc : c ≠ delimiter := by simpa using stops_cons.1 hrest
      simp [double, contents?, hc]
  | cons c contents ih =>
    by_cases hc : c = delimiter
    · simp [double, contents?, hc, ih]
    · obtain ⟨d, tail, htail⟩ : ∃ d tail, double delimiter contents ++ delimiter :: rest = d :: tail :=
        List.exists_cons_of_ne_nil (by simp)
      rw [htail] at ih
      rw [double, if_neg hc, List.cons_append, htail, contents?, if_neg hc, ih, Option.map_some]

theorem Quoted.decode?_encode {delimiter : Char} (contents : List Char) (hrest : Stops (· == delimiter) rest) :
    decode? delimiter (encode delimiter contents ++ rest) = some (contents, rest) := by
  rw [encode, List.cons_append, decode?, if_pos rfl, List.append_assoc]
  exact contents?_double contents hrest

/-- Reading a quoted run undoes writing it, and reads nothing else. -/
theorem Quoted.decode?_eq_some_iff {delimiter : Char} {contents : List Char} :
    decode? delimiter text = some (contents, rest) ↔
      text = encode delimiter contents ++ rest ∧ Stops (· == delimiter) rest := by
  constructor
  · intro h
    refine ⟨eq_encode_of_decode? h, ?_⟩
    cases text with
    | nil => simp [decode?] at h
    | cons c text =>
      rw [decode?] at h
      split at h
      · exact stops_of_contents? h
      · simp at h
  · rintro ⟨rfl, hrest⟩
    exact decode?_encode contents hrest

theorem Quoted.decode?_cons_of_ne {delimiter : Char} (h : c ≠ delimiter) : decode? delimiter (c :: text) = none := by
  rw [decode?, if_neg h]

/-! ### Tokens -/

/-- The characters are the whole of a token of the kind in front of the text. -/
inductive Token.Kind.Spelled : Token.Kind → (spelling rest : List Char) → Prop
  | word {kind : Token.Kind} {run rest : List Char} (hrun : ∀ c ∈ run, isNameChar c = true)
      (hkind : ofWord? run = some kind) (hrest : Stops isNameChar rest) : Spelled kind run rest
  | symbol (s : Symbol) {rest : List Char} (hrest : Stops s.grows rest) : Spelled (.symbol s) s.spelling.toList rest
  | string (contents : List Char) {rest : List Char} (hrest : Stops (· == '\'') rest) :
      Spelled (.string (String.ofList contents)) (Quoted.encode '\'' contents) rest
  | quotedName {delimiter : Char} (name : List Char) {rest : List Char}
      (hdelimiter : delimiter = '"' ∨ delimiter = '\x60') (hrest : Stops (· == delimiter) rest) :
      Spelled (.identifier (String.ofList name)) (Quoted.encode delimiter name) rest
  | bareName {first : Char} {run rest : List Char} (hfirst : isNameStart first = true)
      (hrun : ∀ c ∈ run, isNameChar c = true) (hkind : ofWord? (first :: run) = none) (hrest : Stops isNameChar rest) :
      Spelled (.identifier (SqlShell.bareName (first :: run))) (first :: run) rest
  | numeral {text rest : List Char} (htext : Numeral.IsNumber text) (hrest : Stops Numeral.isTail rest) :
      Spelled (.numeral (String.ofList text)) text rest

namespace Lexeme

theorem reserved?_cons_of_quote {delimiter : Char} (h : delimiter = '\'' ∨ delimiter = '"' ∨ delimiter = '\x60') :
    reserved? (delimiter :: text) = none := by
  rcases h with rfl | rfl | rfl <;> rw [reserved?, nameRun_cons_of_false (by decide), Token.Kind.ofWord?_nil] <;> rfl

/-- A name of which the first character starts it is read by the reader of bare names. -/
theorem read?_bareName {run : List Char} (hfirst : isNameStart c = true) (hrun : ∀ c ∈ run, isNameChar c = true)
    (hkind : Token.Kind.ofWord? (c :: run) = none) (hrest : Stops isNameChar rest) :
    read? (c :: run ++ rest) = some ⟨.identifier (bareName (c :: run)), c :: run, rest⟩ := by
  have hall : ∀ d ∈ c :: run, isNameChar d = true :=
    List.forall_mem_cons.2 ⟨isNameChar_of_isNameStart hfirst, hrun⟩
  have hnameRun : nameRun (c :: (run ++ rest)) = c :: run := takeWhile_append hall hrest
  have hafter : afterNameRun (c :: (run ++ rest)) = rest := dropWhile_append hall hrest
  have hsplit : Symbol.split? (c :: (run ++ rest)) = none :=
    Symbol.split?_cons_eq_none isNameChar (fun s => by cases s <;> decide) (isNameChar_of_isNameStart hfirst)
  have hne (d : Char) (hd : isNameStart d = false) : c ≠ d := by
    rintro rfl
    simp [hfirst] at hd
  have hreserved : reserved? (c :: (run ++ rest)) = none := by
    rw [reserved?, hnameRun, hkind]
    simp [hsplit]
  have hstring : string? (c :: (run ++ rest)) = none := by
    rw [string?, Quoted.decode?_cons_of_ne (hne '\'' (by decide)), Option.map_none]
  have hname (delimiter : Char) (hd : isNameStart delimiter = false) :
      quotedName? delimiter (c :: (run ++ rest)) = none := by
    rw [quotedName?, Quoted.decode?_cons_of_ne (hne delimiter hd), Option.map_none]
  have hbare : bareName? (c :: (run ++ rest)) = some ⟨.identifier (bareName (c :: run)), c :: run, rest⟩ := by
    rw [bareName?, hnameRun, hafter, List.head?_cons, Option.any_some, if_pos hfirst]
  simp only [List.cons_append, read?, identifier?, hreserved, hstring, hname '"' (by decide), hname '\x60' (by decide),
    hbare, Option.orElse_eq_orElse, Option.orElse_eq_or, Option.none_or, Option.some_or]

/-- A number is read by the last of the four readers, since no other one takes anything. -/
theorem read?_numeral {numeral : List Char} (hnumeral : Numeral.IsNumber numeral) (hrest : Stops Numeral.isTail rest) :
    read? (numeral ++ rest) = some ⟨.numeral (String.ofList numeral), numeral, rest⟩ := by
  have hsplit := Numeral.split?_eq_some_iff.2 ⟨hnumeral, rfl, hrest⟩
  obtain ⟨first, tail, htext, hfirst⟩ : ∃ first tail, numeral ++ rest = first :: tail ∧
      (first.isDigit = true ∨ first = '.') := by
    obtain ⟨first, tail, rfl, hfirst⟩ := hnumeral.eq_cons
    exact ⟨first, tail ++ rest, rfl, hfirst⟩
  rw [htext] at hsplit ⊢
  have hstart : isNameStart first = false := by
    rcases hfirst with hdigit | rfl
    · exact not_isNameStart_of_isDigit hdigit
    · decide
  have hne (d : Char) (hd : d.isDigit = false ∧ d ≠ '.') : first ≠ d := by
    rintro rfl
    simp [hd] at hfirst
  have hsign : Symbol.split? (first :: tail) = none :=
    Symbol.split?_cons_eq_none (fun c => c.isDigit || c == '.') (fun s => by cases s <;> decide) (by simpa using hfirst)
  have hword : Token.Kind.ofWord? (nameRun (first :: tail)) = none := by
    rcases hfirst with hdigit | rfl
    · cases h : Token.Kind.ofWord? (nameRun (first :: tail)) with
      | none => rfl
      | some kind =>
        rw [nameRun] at h
        by_cases hname : isNameChar first = true
        · rw [List.takeWhile_cons_of_pos hname] at h
          simp [not_isDigit_head_of_ofWord? h] at hdigit
        · rw [List.takeWhile_cons_of_neg hname, Token.Kind.ofWord?_nil] at h
          simp at h
    · rw [nameRun_cons_of_false (by decide), Token.Kind.ofWord?_nil]
  have hreserved : reserved? (first :: tail) = none := by
    rw [reserved?, hword]
    simp [hsign]
  have hstring : string? (first :: tail) = none := by
    rw [string?, Quoted.decode?_cons_of_ne (hne '\'' (by decide)), Option.map_none]
  have hname (delimiter : Char) (hd : delimiter.isDigit = false ∧ delimiter ≠ '.') :
      quotedName? delimiter (first :: tail) = none := by
    rw [quotedName?, Quoted.decode?_cons_of_ne (hne delimiter hd), Option.map_none]
  have hbare : bareName? (first :: tail) = none := by
    simp [bareName?, hstart]
  simp only [read?, identifier?, hreserved, hstring, hname '"' (by decide), hname '\x60' (by decide), hbare, numeral?,
    hsplit, Option.orElse_eq_orElse, Option.orElse_eq_or, Option.none_or, Option.map_some]

theorem read?_of_spelled {kind : Token.Kind} {spelling : List Char} (h : kind.Spelled spelling rest) :
    read? (spelling ++ rest) = some ⟨kind, spelling, rest⟩ := by
  cases h with
  | word hrun hkind hrest =>
    have hnameRun : nameRun (spelling ++ rest) = spelling := takeWhile_append hrun hrest
    have hafter : afterNameRun (spelling ++ rest) = rest := dropWhile_append hrun hrest
    have hreserved : reserved? (spelling ++ rest) = some ⟨kind, spelling, rest⟩ := by
      rw [reserved?, hnameRun, hkind, hafter]
    simp only [read?, hreserved, Option.orElse_eq_orElse, Option.orElse_eq_or, Option.some_or]
  | symbol s hrest =>
    have hsplit := Symbol.split?_eq_some_iff.2 ⟨rfl, hrest⟩
    have hnameRun : nameRun (s.spelling.toList ++ rest) = [] := by
      cases s <;> exact nameRun_cons_of_false (by decide)
    have hreserved : reserved? (s.spelling.toList ++ rest) = some ⟨.symbol s, s.spelling.toList, rest⟩ := by
      rw [reserved?, hnameRun, Token.Kind.ofWord?_nil]
      simp [hsplit]
    simp only [read?, hreserved, Option.orElse_eq_orElse, Option.orElse_eq_or, Option.some_or]
  | string contents hrest =>
    have hdecode := Quoted.decode?_encode contents hrest
    have hreserved : reserved? (Quoted.encode '\'' contents ++ rest) = none := reserved?_cons_of_quote (.inl rfl)
    simp only [read?, hreserved, string?, hdecode, Option.orElse_eq_orElse, Option.orElse_eq_or, Option.none_or,
      Option.map_some, Option.some_or]
  | @quotedName delimiter name _ hdelimiter hrest =>
    have hdecode := Quoted.decode?_encode name hrest
    have hreserved : reserved? (Quoted.encode delimiter name ++ rest) = none :=
      reserved?_cons_of_quote (.inr hdelimiter)
    have hstring : Quoted.decode? '\'' (Quoted.encode delimiter name ++ rest) = none :=
      Quoted.decode?_cons_of_ne (by rcases hdelimiter with rfl | rfl <;> decide)
    rcases hdelimiter with rfl | rfl
    · simp only [read?, hreserved, string?, hstring, identifier?, quotedName?, hdecode, Option.orElse_eq_orElse,
        Option.orElse_eq_or, Option.none_or, Option.map_none, Option.map_some, Option.some_or]
    · have hother : Quoted.decode? '"' (Quoted.encode '\x60' name ++ rest) = none :=
        Quoted.decode?_cons_of_ne (by decide)
      simp only [read?, hreserved, string?, hstring, identifier?, quotedName?, hdecode, hother, Option.orElse_eq_orElse,
        Option.orElse_eq_or, Option.none_or, Option.map_none, Option.map_some, Option.some_or]
  | bareName hfirst hrun hkind hrest => exact read?_bareName hfirst hrun hkind hrest
  | numeral htext hrest => exact read?_numeral htext hrest

theorem spelled_of_read? {l : Lexeme} (h : read? text = some l) : l.kind.Spelled l.spelling l.rest := by
  simp only [read?, identifier?, Option.orElse_eq_orElse, Option.orElse_eq_or, Option.or_eq_some_iff] at h
  rcases h with h | ⟨hreserved, h | ⟨-, (h | ⟨-, h | ⟨-, h⟩⟩) | ⟨-, h⟩⟩⟩
  · rw [reserved?] at h
    split at h
    · next kind hkind =>
      obtain rfl := Option.some.inj h
      exact .word (forall_mem_nameRun text) hkind (stops_dropWhile _ _)
    · obtain ⟨⟨s, rest⟩, hsplit, rfl⟩ := Option.map_eq_some_iff.1 h
      exact .symbol s (Symbol.split?_eq_some_iff.1 hsplit).2
  · obtain ⟨⟨contents, rest⟩, hdecode, rfl⟩ := Option.map_eq_some_iff.1 h
    exact .string contents (Quoted.decode?_eq_some_iff.1 hdecode).2
  · obtain ⟨⟨name, rest⟩, hdecode, rfl⟩ := Option.map_eq_some_iff.1 h
    exact .quotedName name (.inl rfl) (Quoted.decode?_eq_some_iff.1 hdecode).2
  · obtain ⟨⟨name, rest⟩, hdecode, rfl⟩ := Option.map_eq_some_iff.1 h
    exact .quotedName name (.inr rfl) (Quoted.decode?_eq_some_iff.1 hdecode).2
  · rw [bareName?] at h
    split at h
    · next hstart =>
      obtain rfl := Option.some.inj h
      cases text with
      | nil => simp at hstart
      | cons c text =>
        have hc : isNameStart c = true := by simpa using hstart
        have hrun : nameRun (c :: text) = c :: nameRun text :=
          List.takeWhile_cons_of_pos (isNameChar_of_isNameStart hc)
        have hkind : Token.Kind.ofWord? (c :: nameRun text) = none := by
          rw [reserved?, hrun] at hreserved
          split at hreserved
          · simp at hreserved
          · assumption
        rw [hrun]
        exact .bareName hc (forall_mem_nameRun text) hkind (stops_dropWhile _ _)
    · simp at h
  · obtain ⟨⟨numeral, rest⟩, hsplit, rfl⟩ := Option.map_eq_some_iff.1 h
    obtain ⟨hnumber, -, hrest⟩ := Numeral.split?_eq_some_iff.1 hsplit
    exact .numeral hnumber hrest

/-- The lexeme at the start of a text is the token that is spelled there. -/
theorem read?_eq_some_iff {kind : Token.Kind} {spelling : List Char} :
    read? text = some ⟨kind, spelling, rest⟩ ↔ kind.Spelled spelling rest ∧ text = spelling ++ rest := by
  constructor
  · intro h
    exact ⟨spelled_of_read? h, (read?_tiles h).1.symm⟩
  · rintro ⟨h, rfl⟩
    exact read?_of_spelled h

end Lexeme

/-! ### What stands behind a token -/

/-- Characters that belong to no token but the sign that they spell themselves. -/
def breakers : List Char :=
  [' ', '\n', ',', ';', '(', ')']

/-- The text ends here, or goes on with a breaker. -/
def Breaks (text : List Char) : Prop :=
  ∀ c ∈ text.head?, c ∈ breakers

theorem stops_of_head? {p : Char → Bool} {other : List Char} (h : Stops p rest)
    (hother : Breaks other ∨ other.head? = rest.head?) (hp : breakers.all (!p ·) = true) : Stops p other := by
  intro c hc
  rcases hother with hother | hother
  · have hfalse := List.all_eq_true.1 hp c (hother c hc)
    simpa using hfalse
  · exact h c (hother ▸ hc)

/-- A token stays whole in front of another text that goes on alike, or with a character that breaks it off. -/
theorem Token.Kind.Spelled.exchange {kind : Token.Kind} {spelling other : List Char} (h : kind.Spelled spelling rest)
    (hother : Breaks other ∨ other.head? = rest.head?) : kind.Spelled spelling other := by
  cases h with
  | word hrun hkind hrest => exact .word hrun hkind (stops_of_head? hrest hother (by decide))
  | symbol s hrest => exact .symbol s (stops_of_head? hrest hother (by cases s <;> decide))
  | string contents hrest => exact .string contents (stops_of_head? hrest hother (by decide))
  | quotedName name hdelimiter hrest =>
    exact .quotedName name hdelimiter
      (stops_of_head? hrest hother (by rcases hdelimiter with rfl | rfl <;> decide))
  | bareName hfirst hrun hkind hrest =>
    exact .bareName hfirst hrun hkind (stops_of_head? hrest hother (by decide))
  | numeral htext hrest => exact .numeral htext (stops_of_head? hrest hother (by decide))

end SqlShell
