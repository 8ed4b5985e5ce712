import SqlShell.Proofs.Token.Cursor
/-!
# Quoted runs at places of a source

Where the readers of text literals and names find a delimiter they read a quoted run. `Quoted.StandsAt` says without any
reader which run stands between two positions of a source: the contents between delimiters, with every delimiter in them
written twice, and no further delimiter behind. Reading finds exactly this run and moves over it character by character,
and where a run is never closed it finds nothing (`Place.reads_standing_run`). A run is never closed if all delimiters
behind the first one come in pairs, up to the end of the source.
-/

namespace SqlShell

open Text

theorem slice?_eq_some_iff {α : Type} {start stop : Nat} {text part : List α} (hne : part ≠ []) :
    slice? start stop text = some part ↔ stop = start + part.length ∧ text.drop start = part ++ text.drop stop := by
  constructor
  · intro h
    rw [slice?] at h
    split at h
    · next hin =>
      obtain rfl := Option.some.inj h
      refine ⟨by simp only [List.length_drop, List.length_take]; omega, ?_⟩
      conv => lhs; rw [← List.take_append_drop stop text]
      exact List.drop_append_of_le_length (by simp only [List.length_take]; omega)
    · simp at h
  · rintro ⟨rfl, htext⟩
    exact slice?_of_drop htext.symm hne

/-! ### Runs -/

namespace Quoted

variable {delimiter : Char} {source text contents other : List Char} {start stop stop' : Nat}

theorem contents?_double_eq_none (contents : List Char) : contents? delimiter (double delimiter contents) = none := by
  induction contents with
  | nil => rfl
  | cons c contents ih =>
    by_cases hc : c = delimiter
    · rw [double, if_pos hc, contents?, if_pos rfl, if_pos rfl, ih, Option.map_none]
    · rw [double, if_neg hc]
      cases hrest : double delimiter contents with
      | nil => rw [contents?, if_neg hc]
      | cons d rest => rw [contents?, if_neg hc, ← hrest, ih, Option.map_none]

/-- A run that is not closed has all of its delimiters in pairs. -/
theorem contents?_eq_none_iff : contents? delimiter text = none ↔ ∃ contents, text = double delimiter contents := by
  constructor
  · intro h
    fun_induction contents? delimiter text with
    | case1 => exact ⟨[], rfl⟩
    | case2 => simp at h
    | case3 c hc => exact ⟨[c], by rw [double, if_neg hc, double]⟩
    | case4 rest ih =>
      obtain ⟨contents, rfl⟩ := ih (Option.map_eq_none_iff.1 h)
      exact ⟨delimiter :: contents, by rw [double, if_pos rfl]⟩
    | case5 => simp at h
    | case6 c d rest hc ih =>
      obtain ⟨contents, hcontents⟩ := ih (Option.map_eq_none_iff.1 h)
      exact ⟨c :: contents, by rw [double, if_neg hc, hcontents]⟩
  · rintro ⟨contents, rfl⟩
    exact contents?_double_eq_none contents

/-- From one position up to another the source has the run for the contents, and the run ends there. -/
structure StandsAt (source : List Char) (delimiter : Char) (start stop : Nat) (contents : List Char) : Prop where
  run : slice? start stop source = some (delimiter :: (double delimiter contents ++ [delimiter]))
  ends : source[stop]? ≠ some delimiter

/-- A run starts at the position and goes on to the end of the source. -/
def IsOpenAt (source : List Char) (delimiter : Char) (start : Nat) : Prop :=
  ∃ contents, source.drop start = delimiter :: double delimiter contents

theorem stops_drop_iff : Stops (· == delimiter) (source.drop stop) ↔ source[stop]? ≠ some delimiter := by
  rw [← List.head?_drop]
  cases source.drop stop with
  | nil => simp [stops_nil]
  | cons c rest => simp [stops_cons]

theorem standsAt_iff : StandsAt source delimiter start stop contents ↔
    stop = start + (encode delimiter contents).length ∧
      decode? delimiter (source.drop start) = some (contents, source.drop stop) := by
  have hne : encode delimiter contents ≠ [] := List.cons_ne_nil _ _
  rw [decode?_eq_some_iff, stops_drop_iff, ← and_assoc, ← slice?_eq_some_iff hne]
  exact ⟨fun h => ⟨h.run, h.ends⟩, fun h => ⟨h.1, h.2⟩⟩

theorem StandsAt.unique (h : StandsAt source delimiter start stop contents)
    (hother : StandsAt source delimiter start stop' other) : contents = other ∧ stop = stop' := by
  obtain ⟨rfl, hread⟩ := standsAt_iff.1 h
  obtain ⟨rfl, hread'⟩ := standsAt_iff.1 hother
  obtain ⟨rfl, -⟩ := Prod.mk.inj (Option.some.inj (hread.symm.trans hread'))
  exact ⟨rfl, rfl⟩

theorem isOpenAt_iff : IsOpenAt source delimiter start ↔
    source[start]? = some delimiter ∧ decode? delimiter (source.drop start) = none := by
  rw [IsOpenAt, ← List.head?_drop]
  cases source.drop start with
  | nil => simp
  | cons c rest =>
    by_cases hc : c = delimiter
    · simp [decode?, hc, contents?_eq_none_iff]
    · simp [hc]

end Quoted

/-! ### Places -/

namespace Place

/-- The place behind one more character. -/
def advance (place : Place) (c : Char) : Place :=
  ⟨place.offset + 1, place.location.next c⟩

theorem foldl_advance (place : Place) (text : List Char) :
    text.foldl advance place = ⟨place.offset + text.length, place.location.after text⟩ := by
  induction text generalizing place with
  | nil => rfl
  | cons c text ih =>
    rw [List.foldl_cons, ih, Location.after_cons, List.length_cons, advance, Nat.add_right_comm, Nat.add_assoc]

/-- The place moves over the quoted run for the contents, one character at a time. -/
structure Passes (source : List Char) (delimiter : Char) (contents : List Char) (place next : Place) : Prop where
  stands : Quoted.StandsAt source delimiter place.offset next.offset contents
  moves : next = (delimiter :: (Quoted.double delimiter contents ++ [delimiter])).foldl advance place

variable {source contents : List Char} {delimiter : Char} {place next : Place}

theorem passes_iff : Passes source delimiter contents place next ↔
    ∃ rest, Quoted.decode? delimiter (source.drop place.offset) = some (contents, rest) ∧
      next = ⟨place.offset + (Quoted.encode delimiter contents).length,
        place.location.after (Quoted.encode delimiter contents)⟩ := by
  constructor
  · rintro ⟨hstands, hmoves⟩
    exact ⟨_, (Quoted.standsAt_iff.1 hstands).2, hmoves.trans (foldl_advance _ _)⟩
  · rintro ⟨rest, hread, rfl⟩
    have htext := Quoted.eq_encode_of_decode? hread
    have hrest : rest = source.drop (place.offset + (Quoted.encode delimiter contents).length) := by
      rw [← List.drop_drop, htext, List.drop_left]
    exact ⟨Quoted.standsAt_iff.2 ⟨rfl, hrest ▸ hread⟩, (foldl_advance _ _).symm⟩

end Place

/-! ### Kinds of quotes -/

/-- What quotes are for: a text literal, or a name in quotes of either kind. -/
inductive Quotation where
  | text
  | name
  | backtickName

namespace Quotation

/-- The delimiter of a run. -/
def delimiter : Quotation → Char
  | text => '\''
  | name => '"'
  | backtickName => '\x60'

/-- The reader that reads the run. -/
def reader : Quotation → List Char → Option Lexeme
  | text => Lexeme.string?
  | name | backtickName => Lexeme.identifier?

/-- The token that stands for the contents of a run. -/
def kind (quotation : Quotation) (contents : List Char) : Token.Kind :=
  match quotation with
  | text => .string (String.ofList contents)
  | name | backtickName => .identifier (String.ofList contents)

/-- Where a reader finds its delimiter it reads a run and nothing else. -/
theorem reader_of_head? (quotation : Quotation) {text : List Char} (h : text.head? = some quotation.delimiter) :
    quotation.reader text = (Quoted.decode? quotation.delimiter text).map fun (contents, rest) =>
      ⟨quotation.kind contents, Quoted.encode quotation.delimiter contents, rest⟩ := by
  obtain ⟨rest, rfl⟩ := List.head?_eq_some_iff.1 h
  have hother (c d : Char) (hc : c ≠ d) : Lexeme.quotedName? d (c :: rest) = none := by
    rw [Lexeme.quotedName?, Quoted.decode?_cons_of_ne hc, Option.map_none]
  have hbare (c : Char) (hc : isNameStart c = false) : Lexeme.bareName? (c :: rest) = none := by
    simp [Lexeme.bareName?, hc]
  cases quotation with
  | text => rfl
  | name =>
    show Lexeme.identifier? ('"' :: rest) = Lexeme.quotedName? '"' ('"' :: rest)
    rw [Lexeme.identifier?, hother '"' '\x60' (by decide), hbare '"' (by decide)]
    cases Lexeme.quotedName? '"' ('"' :: rest) <;> rfl
  | backtickName =>
    show Lexeme.identifier? ('\x60' :: rest) = Lexeme.quotedName? '\x60' ('\x60' :: rest)
    rw [Lexeme.identifier?, hother '\x60' '"' (by decide), hbare '\x60' (by decide)]
    cases Lexeme.quotedName? '\x60' ('\x60' :: rest) <;> rfl

end Quotation

namespace Place

variable {quotation : Quotation} {source : List Char} {place next : Place} {token : Token}

theorem read?_of_delimiter (h : source[place.offset]? = some quotation.delimiter) :
    place.read? quotation.reader source =
      (Quoted.decode? quotation.delimiter (source.drop place.offset)).map fun (contents, _) =>
        (⟨quotation.kind contents, place.location⟩,
          ⟨place.offset + (Quoted.encode quotation.delimiter contents).length,
            place.location.after (Quoted.encode quotation.delimiter contents)⟩) := by
  rw [← List.head?_drop] at h
  rw [read?, quotation.reader_of_head? h, Option.map_map]
  rfl

theorem read?_eq_some_iff : source[place.offset]? = some quotation.delimiter ∧
      place.read? quotation.reader source = some (token, next) ↔
    ∃ contents, token = ⟨quotation.kind contents, place.location⟩ ∧
      place.Passes source quotation.delimiter contents next := by
  constructor
  · rintro ⟨hstart, hread⟩
    rw [read?_of_delimiter hstart] at hread
    obtain ⟨⟨contents, rest⟩, hdecode, hpair⟩ := Option.map_eq_some_iff.1 hread
    obtain ⟨rfl, rfl⟩ := Prod.mk.inj hpair
    exact ⟨contents, rfl, passes_iff.2 ⟨rest, hdecode, rfl⟩⟩
  · rintro ⟨contents, rfl, hpasses⟩
    obtain ⟨rest, hdecode, rfl⟩ := passes_iff.1 hpasses
    have hstart : source[place.offset]? = some quotation.delimiter := by
      rw [← List.head?_drop, Quoted.eq_encode_of_decode? hdecode]
      rfl
    exact ⟨hstart, by rw [read?_of_delimiter hstart, hdecode, Option.map_some]⟩

theorem read?_eq_none_iff : source[place.offset]? = some quotation.delimiter ∧
      place.read? quotation.reader source = none ↔ Quoted.IsOpenAt source quotation.delimiter place.offset := by
  rw [Quoted.isOpenAt_iff]
  refine and_congr_right fun hstart => ?_
  rw [read?_of_delimiter hstart, Option.map_eq_none_iff]

/-- Only where a quote stands a text literal is read. -/
theorem read?_string_of_ne (h : source[place.offset]? ≠ some '\'') : place.read? Lexeme.string? source = none := by
  rw [← List.head?_drop] at h
  rw [read?, Lexeme.string?]
  generalize source.drop place.offset = text at h ⊢
  cases text with
  | nil => rfl
  | cons c rest =>
    have hc : c ≠ '\'' := by simpa using h
    rw [Quoted.decode?_cons_of_ne hc]
    rfl

/-- Where a delimiter stands, a token is read if and only if a run for its contents stands there, of which there is no
other, and reading moves over all of its characters. Nothing is read if the run is never closed. Text literals are not
read anywhere else. -/
theorem reads_standing_run (source : List Char) (place : Place) :
    (∀ quotation : Quotation,
      (∀ token next, source[place.offset]? = some quotation.delimiter ∧
          place.read? quotation.reader source = some (token, next) ↔
        ∃ contents, token = ⟨quotation.kind contents, place.location⟩ ∧
          place.Passes source quotation.delimiter contents next) ∧
      (∀ stop stop' contents other, Quoted.StandsAt source quotation.delimiter place.offset stop contents →
        Quoted.StandsAt source quotation.delimiter place.offset stop' other → contents = other ∧ stop = stop') ∧
      (source[place.offset]? = some quotation.delimiter ∧ place.read? quotation.reader source = none ↔
        Quoted.IsOpenAt source quotation.delimiter place.offset)) ∧
    (source[place.offset]? = some '\'' ∨ place.read? Lexeme.string? source = none) := by
  refine ⟨fun quotation => ⟨fun token next => read?_eq_some_iff, fun stop stop' contents other h hother => ?_,
    read?_eq_none_iff⟩, ?_⟩
  · exact h.unique hother
  · by_cases hquote : source[place.offset]? = some '\''
    · exact .inl hquote
    · exact .inr (read?_string_of_ne hquote)

/-- A literal that holds a quote and a line feed, and a name that is never closed. -/
theorem reads_standing_run_of_line_feed :
    Quoted.StandsAt "n'it''s\n' ".toList '\'' 1 9 "it's\n".toList ∧
      read? Lexeme.string? "n'it''s\n' ".toList ⟨1, ⟨0, 1⟩⟩ = some (⟨.string "it's\n", ⟨0, 1⟩⟩, ⟨9, ⟨1, 1⟩⟩) ∧
      (∀ stop contents, Quoted.StandsAt "n'it''s\n' ".toList '\'' 1 stop contents →
        "it's\n".toList = contents ∧ 9 = stop) ∧
      Quoted.IsOpenAt "\"a\"\"".toList '"' 0 ∧ read? Lexeme.identifier? "\"a\"\"".toList ⟨0, .start⟩ = none := by
  have hliteral := (reads_standing_run "n'it''s\n' ".toList ⟨1, ⟨0, 1⟩⟩).1 .text
  have hname := (reads_standing_run "\"a\"\"".toList ⟨0, .start⟩).1 .name
  have hstands : Quoted.StandsAt "n'it''s\n' ".toList '\'' 1 9 "it's\n".toList := ⟨by decide, by decide⟩
  have hopen : Quoted.IsOpenAt "\"a\"\"".toList '"' 0 := ⟨['a', '"'], by decide⟩
  have hread := (hliteral.1 ⟨.string "it's\n", ⟨0, 1⟩⟩ ⟨9, ⟨1, 1⟩⟩).2 ⟨_, rfl, hstands, by decide⟩
  exact ⟨hstands, hread.2, fun stop contents hother => hliteral.2.1 _ _ _ _ hstands hother, hopen,
    (hname.2.2.2 hopen).2⟩

end Place

end SqlShell
