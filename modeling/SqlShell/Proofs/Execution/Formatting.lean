import SqlShell.Proofs.Execution.Relocation
import SqlShell.Proofs.Parsing.ViablePrefix
/-!
# Formatting

Texts with the same kinds of tokens differ only in what stands between the tokens and in where these stand. Both of
their token lists come from one list, in which the location of every token is its position (`numbered`), by moving its
tokens. Parsing and execution do not notice the move, so the texts do the same, or they are refused at the same position
(`Catalog.executeBatch_of_same_kinds`).
-/

namespace SqlShell

/-- The tokens of these kinds, each at its position in the list. -/
def numbered (kinds : List Token.Kind) : List Token :=
  kinds.zipIdx.map fun (kind, i) => ⟨kind, ⟨i, 0⟩⟩

/-- The location of the token at a position. -/
def placeIn (tokens : List Token) (position : Location) : Location :=
  (tokens[position.line]?.map (·.location)).getD position

theorem getElem?_numbered (kinds : List Token.Kind) (i : Nat) :
    (numbered kinds)[i]? = kinds[i]?.map fun kind => ⟨kind, ⟨i, 0⟩⟩ := by
  simp [numbered, Function.comp_def]

theorem location_of_mem_numbered {kinds : List Token.Kind} {t : Token} (h : t ∈ numbered kinds) :
    ∃ i < kinds.length, t.location = ⟨i, 0⟩ := by
  obtain ⟨i, hi, rfl⟩ := List.mem_iff_getElem.1 h
  have hlength : (numbered kinds).length = kinds.length := by simp [numbered]
  exact ⟨i, hlength ▸ hi, by simp [numbered]⟩

/-- Every token list is a numbered one, moved. -/
theorem map_relocate_numbered (tokens : List Token) :
    (numbered (tokens.map (·.kind))).map (Token.relocate (placeIn tokens)) = tokens := by
  refine List.ext_getElem? fun i => ?_
  rw [List.getElem?_map, getElem?_numbered, List.getElem?_map, Option.map_map, Option.map_map]
  cases htoken : tokens[i]? with
  | none => rfl
  | some t =>
    show some (Token.mk t.kind (placeIn tokens ⟨i, 0⟩)) = some t
    rw [placeIn, htoken]
    rfl

/-! ### Parsing -/

/-- A parse error points at a token. -/
theorem parseTokens_error_mem {tokens : List Token} {e : ParseError} (h : parseTokens tokens = .error e) :
    ∃ t ∈ tokens, t.location = e.location := by
  obtain ⟨failure, hfailure, rfl⟩ := parseTokens_eq_error.1 h
  obtain ⟨taken, htokens, -⟩ := Parsing.readBatch_fails hfailure
  cases hrest : failure.rest with
  | cons t rest =>
    refine ⟨t, by rw [htokens, hrest]; simp, ?_⟩
    simp [Failure.toParseError, hrest]
  | nil =>
    have hne : tokens ≠ [] := by
      rintro rfl
      simp [Parsing.readBatch] at hfailure
    refine ⟨tokens.getLast hne, List.getLast_mem hne, ?_⟩
    simp [Failure.toParseError, hrest, List.getLast?_eq_some_getLast hne]

/-- Tokens are refused at the position at which their kinds are refused, or they stand for the statements that their
kinds stand for, moved. -/
theorem parseTokens_eq_numbered (tokens : List Token) :
    (∃ i expected, parseTokens (numbered (tokens.map (·.kind))) = .error ⟨⟨i, 0⟩, expected⟩ ∧
        ∃ e, parseTokens tokens = .error e ∧ e.expected = expected ∧
          tokens[i]?.map (·.location) = some e.location) ∨
      ∃ statements, parseTokens (numbered (tokens.map (·.kind))) = .ok statements ∧
        parseTokens tokens = .ok (statements.map (Statement.relocate (placeIn tokens))) := by
  have hmoved := parseTokens_map (placeIn tokens) (numbered (tokens.map (·.kind)))
  rw [map_relocate_numbered] at hmoved
  cases hparse : parseTokens (numbered (tokens.map (·.kind))) with
  | ok statements =>
    rw [hparse] at hmoved
    exact .inr ⟨statements, rfl, hmoved⟩
  | error e =>
    rw [hparse] at hmoved
    obtain ⟨t, ht, hlocation⟩ := parseTokens_error_mem hparse
    obtain ⟨i, hi, hposition⟩ := location_of_mem_numbered ht
    rw [List.length_map] at hi
    obtain ⟨location, expected⟩ := e
    obtain rfl : location = ⟨i, 0⟩ := hlocation.symm.trans hposition
    refine .inl ⟨i, expected, rfl, _, hmoved, rfl, ?_⟩
    rw [List.getElem?_eq_getElem hi]
    simp [ParseError.relocate, placeIn, List.getElem?_eq_getElem hi]

/-! ### Execution -/

namespace Catalog

theorem executeBatch_of_lex_error {catalog : Catalog} {source : String} {tokens : List Token} {e : ParseError}
    (hlex : lex source = .ok tokens) (hparse : parseTokens tokens = .error e) :
    catalog.executeBatch source = (.error e, catalog) := by
  rw [executeBatch, parse, hlex]
  simp only [hparse]

theorem executeBatch_of_lex_ok {catalog : Catalog} {source : String} {tokens : List Token} {f : Location → Location}
    {statements : List Statement} (hlex : lex source = .ok tokens)
    (hparse : parseTokens tokens = .ok (statements.map (Statement.relocate f))) :
    catalog.executeBatch source = (.ok (catalog.run statements).1, (catalog.run statements).2) := by
  rw [executeBatch, parse, hlex]
  simp only [hparse, run_relocate]

/-- Texts with the same kinds of tokens are both refused, at tokens of the same position, where the same was expected,
and the catalog stays as it is; or they are both executed, with the same outcomes and the same catalog in the end. -/
theorem executeBatch_of_same_kinds (catalog : Catalog) {first second : String} {tokens tokens' : List Token}
    (hfirst : lex first = .ok tokens) (hsecond : lex second = .ok tokens')
    (hkinds : tokens.map (·.kind) = tokens'.map (·.kind)) :
    (∃ (e e' : ParseError) (i : Nat), catalog.executeBatch first = (.error e, catalog) ∧
        catalog.executeBatch second = (.error e', catalog) ∧ e.expected = e'.expected ∧
          tokens[i]?.map (·.location) = some e.location ∧
          tokens'[i]?.map (·.location) = some e'.location) ∨
      ∃ outcomes after, catalog.executeBatch first = (.ok outcomes, after) ∧
        catalog.executeBatch second = (.ok outcomes, after) := by
  have hparse := parseTokens_eq_numbered tokens
  have hparse' := parseTokens_eq_numbered tokens'
  rw [← hkinds] at hparse'
  rcases hparse with ⟨i, expected, hnumbered, e, herror, hexpected, hlocation⟩ | ⟨statements, hnumbered, hok⟩
  · rcases hparse' with ⟨i', expected', hnumbered', e', herror', hexpected', hlocation'⟩ | ⟨_, hnumbered', -⟩
    · have hsame := Except.error.inj (hnumbered.symm.trans hnumbered')
      obtain ⟨hposition, rfl⟩ := ParseError.mk.inj hsame
      obtain rfl : i = i' := congrArg Location.line hposition
      exact .inl ⟨e, e', i, executeBatch_of_lex_error hfirst herror, executeBatch_of_lex_error hsecond herror',
        hexpected.trans hexpected'.symm, hlocation, hlocation'⟩
    · exact absurd (hnumbered.symm.trans hnumbered') (by simp)
  · rcases hparse' with ⟨_, _, hnumbered', -⟩ | ⟨statements', hnumbered', hok'⟩
    · exact absurd (hnumbered.symm.trans hnumbered') (by simp)
    · obtain rfl := Except.ok.inj (hnumbered.symm.trans hnumbered')
      exact .inr ⟨_, _, executeBatch_of_lex_ok hfirst hok, executeBatch_of_lex_ok hsecond hok'⟩

theorem eq_ok_of_toOption {ε α : Type} {result : Except ε α} {a : α} (h : result.toOption = some a) :
    result = .ok a := by
  cases result with
  | error e => simp [Except.toOption] at h
  | ok b => exact congrArg Except.ok (Option.some.inj h)

/-- A keyword is missing in front of the name, which stands on another line behind a comment. -/
theorem executeBatch_of_same_kinds_of_missing_keyword :
    lex "DROP a" = .ok [⟨.keyword .drop, ⟨0, 0⟩⟩, ⟨.identifier "a", ⟨0, 5⟩⟩] ∧
      lex "drop -- it\n \"a\"" = .ok [⟨.keyword .drop, ⟨0, 0⟩⟩, ⟨.identifier "a", ⟨1, 1⟩⟩] ∧
      empty.executeBatch "DROP a" = (.error ⟨⟨0, 5⟩, .keyword .table⟩, empty) ∧
      empty.executeBatch "drop -- it\n \"a\"" = (.error ⟨⟨1, 1⟩, .keyword .table⟩, empty) := by
  have hfirst : lex "DROP a" = .ok [⟨.keyword .drop, ⟨0, 0⟩⟩, ⟨.identifier "a", ⟨0, 5⟩⟩] :=
    eq_ok_of_toOption (by decide +kernel)
  have hsecond : lex "drop -- it\n \"a\"" = .ok [⟨.keyword .drop, ⟨0, 0⟩⟩, ⟨.identifier "a", ⟨1, 1⟩⟩] :=
    eq_ok_of_toOption (by decide +kernel)
  have hparse : parseTokens [⟨.keyword .drop, ⟨0, 0⟩⟩, ⟨.identifier "a", ⟨0, 5⟩⟩] =
      .error ⟨⟨0, 5⟩, .keyword .table⟩ :=
    parseTokens_eq_error.2 ⟨⟨.keyword .table, [⟨.identifier "a", ⟨0, 5⟩⟩]⟩, by decide +kernel, rfl⟩
  have hrefused : empty.executeBatch "DROP a" = (.error ⟨⟨0, 5⟩, .keyword .table⟩, empty) :=
    executeBatch_of_lex_error hfirst hparse
  refine ⟨hfirst, hsecond, hrefused, ?_⟩
  rcases executeBatch_of_same_kinds empty hfirst hsecond rfl with
    ⟨e, e', i, herror, herror', hexpected, hlocation, hlocation'⟩ | ⟨outcomes, after, hok, -⟩
  · obtain rfl := Except.error.inj (Prod.mk.inj (hrefused.symm.trans herror)).1
    obtain rfl : i = 1 := by
      rcases i with _ | _ | i
      · simp at hlocation
      · rfl
      · simp at hlocation
    obtain ⟨location, expected⟩ := e'
    obtain rfl : ⟨1, 1⟩ = location := by simpa using hlocation'
    obtain rfl : .keyword .table = expected := hexpected
    exact herror'
  · exact absurd (Prod.mk.inj (hrefused.symm.trans hok)).1 (by simp)

end Catalog

end SqlShell
