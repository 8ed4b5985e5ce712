import Mathlib.Data.List.Basic
import SqlShell.Proofs.Parsing.Gap
/-!
# Texts one below the other

A line feed breaks off whatever stands in front of it: it ends a token like the end of the text does, and it is the end of
a comment. So the lexer finds in two texts that stand one below the other first the tokens of the first one and then those
of the second one, moved down (`lex_append_line`). The proof goes along the recursion of the lexer over the first text: one
round of it finds the same token at the same place (`Lexeme.read?_append_line`), and what is left behind the last token
stays a gap (`IsGap.append_line`).
-/

namespace SqlShell

open Text

variable {text gap rest spelling : List Char} {kind : Token.Kind} {l : Location} {tokens : List Token}

/-- A last comment ends at the line feed. -/
theorem IsGap.append_line {atEnd : Bool} (h : IsGap atEnd gap) : IsGap false (gap ++ ['\n']) := by
  induction h with
  | nil => exact .blank (by decide) .nil
  | blank hc _ ih => exact .blank hc ih
  | comment hbody _ ih =>
    rw [List.cons_append, List.cons_append, List.append_assoc]
    exact .comment hbody ih
  | lastComment hbody => exact .comment hbody .nil

theorem opensGap_append_line (hne : text ≠ []) (h : opensGap text = false) (below : List Char) :
    opensGap (text ++ '\n' :: below) = false := by
  rcases text with _ | ⟨c, _ | ⟨d, text⟩⟩
  · exact absurd rfl hne
  · simpa [opensGap] using h
  · exact h

/-- The token at the start of a text is the same if a line feed stands behind the text. -/
theorem Lexeme.read?_append_line (h : read? text = some ⟨kind, spelling, rest⟩) (below : List Char) :
    read? (text ++ '\n' :: below) = some ⟨kind, spelling, rest ++ '\n' :: below⟩ := by
  obtain ⟨hspelled, rfl⟩ := read?_eq_some_iff.1 h
  have hother : Breaks (rest ++ '\n' :: below) ∨ (rest ++ '\n' :: below).head? = rest.head? := by
    cases rest with
    | nil => exact .inl (by simp [Breaks, breakers])
    | cons c rest => exact .inr rfl
  exact read?_eq_some_iff.2 ⟨hspelled.exchange hother, by rw [List.append_assoc]⟩

/-- Behind a text that has tokens and a line feed, the lexer goes on at the start of the next line. -/
theorem lexFrom_append_line (h : lexFrom l text = .ok tokens) (below : List Char) :
    lexFrom l (text ++ '\n' :: below) =
      (lexFrom (l.after (text ++ ['\n'])) below).map fun more => tokens ++ more := by
  fun_induction lexFrom l text generalizing tokens with
  | case1 l text gap hsplit =>
    obtain rfl := Except.ok.inj h
    obtain ⟨rfl, hgap⟩ := isGap_of_splitGap hsplit
    have hbelow := lexFrom_append_gap l hgap.append_line below
    simp only [List.append_assoc, List.singleton_append, List.append_nil] at hbelow ⊢
    rw [hbelow]
    cases lexFrom (l.after (gap ++ ['\n'])) below <;> rfl
  | case2 => simp at h
  | case3 => simp at h
  | case4 l text gap c rest hsplit lexeme hread more hmore ih =>
    obtain rfl := Except.ok.inj h
    have hopens := opensGap_append_line (List.cons_ne_nil c rest) (opensGap_of_splitGap hsplit) below
    obtain ⟨rfl, hgap⟩ := isGap_of_splitGap hsplit
    have htext := (Lexeme.read?_tiles hread).1
    rw [List.append_assoc, lexFrom_append_gap l hgap, lexFrom_of_read? _ hopens (Lexeme.read?_append_line hread below),
      ih hmore, ← htext]
    simp only [Location.after_append, List.append_assoc]
    cases lexFrom _ below <;> rfl

/-- Two texts one below the other have the tokens of the first one and then those of the second one, further down by the
lines of the first one. The second one is refused where it is refused by itself, as much further down. -/
theorem lex_append_line {above : String} (h : lex above = .ok tokens) (below : String) :
    lex (above ++ "\n" ++ below) =
      match lex below with
      | .ok more => .ok (tokens ++ more.map (Token.relocate (Location.down (above.toList.count '\n' + 1))))
      | .error e => .error ⟨e.location.down (above.toList.count '\n' + 1)⟩ := by
  have hline : Location.start.after (above.toList ++ ['\n']) = Location.start.down (above.toList.count '\n' + 1) := by
    have hbehind := Location.after_behind [] (above.toList ++ ['\n'])
    simpa [Location.behind, Location.down, Location.start] using hbehind
  have htext : (above ++ "\n" ++ below).toList = above.toList ++ '\n' :: below.toList := by simp
  rw [lex, htext, lexFrom_append_line h, hline, lexFrom_down]
  cases hbelow : lex below <;> simp only [lex] at hbelow <;> rw [hbelow] <;> rfl

/-- A comment ends with its line, and with it the quote that stands in it. -/
theorem lex_append_line_of_comment :
    lex "a\n<-- don't" = .ok [⟨.identifier "a", ⟨0, 0⟩⟩, ⟨.symbol .less, ⟨1, 0⟩⟩] ∧
      lex ("a\n<-- don't" ++ "\n" ++ "=\n1e3") =
        .ok [⟨.identifier "a", ⟨0, 0⟩⟩, ⟨.symbol .less, ⟨1, 0⟩⟩, ⟨.symbol .equal, ⟨2, 0⟩⟩, ⟨.numeral "1e3", ⟨3, 0⟩⟩] ∧
      lex ("a\n<-- don't" ++ "\n" ++ "= ?") = .error ⟨⟨2, 2⟩⟩ := by
  have habove : lex "a\n<-- don't" = .ok [⟨.identifier "a", ⟨0, 0⟩⟩, ⟨.symbol .less, ⟨1, 0⟩⟩] := by decide +kernel
  have hbelow : lex "=\n1e3" = .ok [⟨.symbol .equal, ⟨0, 0⟩⟩, ⟨.numeral "1e3", ⟨1, 0⟩⟩] := by decide +kernel
  have hrefused : lex "= ?" = .error ⟨⟨0, 2⟩⟩ := by decide +kernel
  have hboth := lex_append_line habove "=\n1e3"
  have herror := lex_append_line habove "= ?"
  rw [hbelow] at hboth
  rw [hrefused] at herror
  exact ⟨habove, hboth, herror⟩

end SqlShell
