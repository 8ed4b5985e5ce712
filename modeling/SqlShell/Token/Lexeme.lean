import SqlShell.Numeral.Form
import SqlShell.Token.Quoted
import SqlShell.Token.Word
/-!
# Lexemes

A lexeme is a token before it has a place: the kind of token that the start of a text spells, the characters
that spell it, and the text after them. There are four readers, and a text is tried with them in a fixed order.
A reader either takes a nonempty piece from the front of the text or takes nothing.
-/

namespace SqlShell

/-- A kind of token, the characters that spell it, and the text after them. -/
structure Lexeme where
  kind : Token.Kind
  spelling : List Char
  rest : List Char

namespace Lexeme

/-- A keyword, a truth value or a sign. -/
def reserved? (text : List Char) : Option Lexeme :=
  match Token.Kind.ofWord? (nameRun text) with
  | some kind => some ⟨kind, nameRun text, afterNameRun text⟩
  | none => (Symbol.split? text).map fun (s, rest) => ⟨.symbol s, s.spelling.toList, rest⟩

/-- A text literal between single quotes. -/
def string? (text : List Char) : Option Lexeme :=
  (Quoted.decode? '\'' text).map fun (contents, rest) =>
    ⟨.string (String.ofList contents), Quoted.encode '\'' contents, rest⟩

/-- A name between the given delimiters. -/
def quotedName? (delimiter : Char) (text : List Char) : Option Lexeme :=
  (Quoted.decode? delimiter text).map fun (name, rest) =>
    ⟨.identifier (String.ofList name), Quoted.encode delimiter name, rest⟩

/-- A name without quotes. -/
def bareName? (text : List Char) : Option Lexeme :=
  if text.head?.any isNameStart then
    some ⟨.identifier (bareName (nameRun text)), nameRun text, afterNameRun text⟩
  else none

/-- A name, quoted or bare. -/
def identifier? (text : List Char) : Option Lexeme :=
  quotedName? '"' text <|> quotedName? '\x60' text <|> bareName? text

/-- A number literal. -/
def numeral? (text : List Char) : Option Lexeme :=
  (Numeral.split? text).map fun (numeral, rest) => ⟨.numeral (String.ofList numeral), numeral, rest⟩

/-- The lexeme at the start of a text. -/
def read? (text : List Char) : Option Lexeme :=
  reserved? text <|> string? text <|> identifier? text <|> numeral? text

/-- The lexeme is a nonempty piece from the front of the text. -/
def Tiles (l : Lexeme) (text : List Char) : Prop :=
  l.spelling ++ l.rest = text ∧ l.spelling ≠ []

theorem Tiles.length_lt {l : Lexeme} {text : List Char} (h : l.Tiles text) : l.rest.length < text.length := by
  obtain ⟨htext, hne⟩ := h
  have := List.length_pos_iff.2 hne
  rw [← htext, List.length_append]
  omega

theorem reserved?_tiles {text : List Char} {l : Lexeme} (h : reserved? text = some l) : l.Tiles text := by
  rw [reserved?] at h
  split at h
  · next kind hkind =>
    obtain rfl := Option.some.inj h
    refine ⟨nameRun_append_afterNameRun text, fun hnil => ?_⟩
    rw [show nameRun text = [] from hnil, Token.Kind.ofWord?_nil] at hkind
    simp at hkind
  · obtain ⟨⟨s, rest⟩, hsplit, rfl⟩ := Option.map_eq_some_iff.1 h
    refine ⟨Symbol.split?_tiles hsplit, ?_⟩
    cases s <;> exact List.cons_ne_nil _ _

private theorem encode_tiles {delimiter : Char} {text contents rest : List Char} {kind : Token.Kind}
    (h : Quoted.decode? delimiter text = some (contents, rest)) :
    (Lexeme.mk kind (Quoted.encode delimiter contents) rest).Tiles text :=
  ⟨(Quoted.eq_encode_of_decode? h).symm, by simp [Quoted.encode]⟩

theorem string?_tiles {text : List Char} {l : Lexeme} (h : string? text = some l) : l.Tiles text := by
  obtain ⟨⟨contents, rest⟩, hdecode, rfl⟩ := Option.map_eq_some_iff.1 h
  exact encode_tiles hdecode

theorem quotedName?_tiles {delimiter : Char} {text : List Char} {l : Lexeme}
    (h : quotedName? delimiter text = some l) : l.Tiles text := by
  obtain ⟨⟨contents, rest⟩, hdecode, rfl⟩ := Option.map_eq_some_iff.1 h
  exact encode_tiles hdecode

theorem bareName?_tiles {text : List Char} {l : Lexeme} (h : bareName? text = some l) : l.Tiles text := by
  rw [bareName?] at h
  split at h
  · next hstart =>
    obtain rfl := Option.some.inj h
    refine ⟨nameRun_append_afterNameRun text, ?_⟩
    match text with
    | [] => simp at hstart
    | c :: rest => simp [nameRun, isNameChar_of_isNameStart (show isNameStart c = true by simpa using hstart)]
  · simp at h

theorem identifier?_tiles {text : List Char} {l : Lexeme} (h : identifier? text = some l) : l.Tiles text := by
  simp only [identifier?, Option.orElse_eq_orElse, Option.orElse_eq_or, Option.or_eq_some_iff] at h
  rcases h with h | ⟨-, h | ⟨-, h⟩⟩
  · exact quotedName?_tiles h
  · exact quotedName?_tiles h
  · exact bareName?_tiles h

theorem numeral?_tiles {text : List Char} {l : Lexeme} (h : numeral? text = some l) : l.Tiles text := by
  obtain ⟨⟨numeral, rest⟩, hsplit, rfl⟩ := Option.map_eq_some_iff.1 h
  exact Numeral.split?_tiles hsplit

/-- Reading takes a nonempty piece from the front of the text. -/
theorem read?_tiles {text : List Char} {l : Lexeme} (h : read? text = some l) : l.Tiles text := by
  simp only [read?, Option.orElse_eq_orElse, Option.orElse_eq_or, Option.or_eq_some_iff] at h
  rcases h with h | ⟨-, h | ⟨-, h | ⟨-, h⟩⟩⟩
  · exact reserved?_tiles h
  · exact string?_tiles h
  · exact identifier?_tiles h
  · exact numeral?_tiles h

end Lexeme

end SqlShell
