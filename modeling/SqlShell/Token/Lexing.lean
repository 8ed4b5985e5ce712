import SqlShell.Text.Blank
import SqlShell.Token.Lexeme
/-!
# From text to tokens

A text is read from its start as gaps and lexemes in turn. A gap holds blanks and comments, and a comment goes
from two minus signs to the end of its line. The text has no tokens at all if something other than a lexeme
stands behind a gap; the error says where.
-/

namespace SqlShell

/-- No lexeme starts at the location. -/
structure LexError where
  location : Location
deriving DecidableEq, Inhabited

/-- The wording of the error. -/
def LexError.message (e : LexError) : String :=
  s!"Lex error at {e.location.message}: unrecognized input"

/-- The gap at the start of a text and the text after it; the text may start inside a comment. -/
def splitGap (inComment : Bool) : List Char → List Char × List Char
  | [] => ([], [])
  | c :: rest =>
    if inComment then
      let (gap, after) := splitGap (c != '\n') rest
      (c :: gap, after)
    else if Text.isBlank c then
      let (gap, after) := splitGap false rest
      (c :: gap, after)
    else if c = '-' ∧ rest.head? = some '-' then
      let (gap, after) := splitGap true rest
      (c :: gap, after)
    else ([], c :: rest)

theorem splitGap_append (inComment : Bool) (text : List Char) :
    (splitGap inComment text).1 ++ (splitGap inComment text).2 = text := by
  fun_induction splitGap inComment text <;> simp_all

theorem length_splitGap_le (inComment : Bool) (text : List Char) :
    (splitGap inComment text).2.length ≤ text.length := by
  have h := congrArg List.length (splitGap_append inComment text)
  rw [List.length_append] at h
  omega

/-- The tokens of a text that starts at a location. -/
def lexFrom (location : Location) (text : List Char) : Except LexError (List Token) :=
  match _hgap : splitGap false text with
  | (_, []) => .ok []
  | (gap, c :: rest) =>
    match _hread : Lexeme.read? (c :: rest) with
    | none => .error ⟨location.after gap⟩
    | some lexeme =>
      match lexFrom ((location.after gap).after lexeme.spelling) lexeme.rest with
      | .error e => .error e
      | .ok tokens => .ok (⟨lexeme.kind, location.after gap⟩ :: tokens)
termination_by text.length
decreasing_by
  have hle := length_splitGap_le false text
  rw [_hgap] at hle
  exact Nat.lt_of_lt_of_le (Lexeme.read?_tiles _hread).length_lt hle

/-- The tokens of a text. -/
def lex (source : String) : Except LexError (List Token) :=
  lexFrom Location.start source.toList

/-- A place in a text: the number of characters before it, and the location that is ascribed to it. -/
structure Place where
  offset : Nat
  location : Location
deriving DecidableEq, Inhabited

/-- Reads one token at a place. A place behind the end of the text is like one at its end. -/
def Place.read? (reader : List Char → Option Lexeme) (source : List Char) (place : Place) :
    Option (Token × Place) :=
  (reader (source.drop place.offset)).map fun lexeme =>
    (⟨lexeme.kind, place.location⟩,
      ⟨place.offset + lexeme.spelling.length, place.location.after lexeme.spelling⟩)

end SqlShell
