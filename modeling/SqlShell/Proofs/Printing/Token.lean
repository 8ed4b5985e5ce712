import SqlShell.Proofs.Token.Spells
/-!
# Printed tokens

Each token has one printed form: keywords are in capitals, names stand in double quotes and texts in single quotes, so
that they may hold anything. The printed form spells the token, and tokens may be printed one behind the other with
blanks between them.
-/

namespace SqlShell

open Text

/-- How a token is written. -/
def Token.Kind.printed : Token.Kind → String
  | .keyword k => k.display
  | .symbol s => s.spelling
  | .identifier name => String.ofList (Quoted.encode '"' name.toList)
  | .string contents => String.ofList (Quoted.encode '\'' contents.toList)
  | .numeral text => text
  | .boolean value => truthSpelling value

/-- A text that is a number as a whole, if the token is a numeral. -/
def Token.Kind.IsSpellable : Token.Kind → Prop
  | .numeral text => Numeral.split? text.toList = some (text.toList, [])
  | _ => True

instance (kind : Token.Kind) : Decidable kind.IsSpellable :=
  match kind with
  | .numeral text => inferInstanceAs (Decidable (Numeral.split? text.toList = _))
  | .keyword _ | .symbol _ | .identifier _ | .string _ | .boolean _ => isTrue trivial

/-- Tokens with single blanks between them. -/
def printTokens (kinds : List Token.Kind) : String :=
  " ".intercalate (kinds.map Token.Kind.printed)

/-! ### Reading them back -/

theorem spells_quoted {kind : Token.Kind} {delimiter : Char} {contents : String}
    (h : kind.Spelled (Quoted.encode delimiter contents.toList) [])
    (hdelimiter : isBlank delimiter = false ∧ delimiter ≠ '-') :
    Spells (String.ofList (Quoted.encode delimiter contents.toList)).toList [kind] := by
  rw [String.toList_ofList]
  refine spells_token h ?_
  simp [opensGap, Quoted.encode, hdelimiter]

theorem spells_numeral {text : String} (h : Numeral.split? text.toList = some (text.toList, [])) :
    Spells text.toList [.numeral text] := by
  obtain ⟨hnumber, -, hrest⟩ := Numeral.split?_eq_some_iff.1 h
  have hspelled := Token.Kind.Spelled.numeral hnumber hrest
  rw [String.ofList_toList] at hspelled
  refine spells_token hspelled ?_
  obtain ⟨first, tail, htext, hfirst⟩ := hnumber.eq_cons
  have hblank : isBlank first = false :=
    isBlank_eq_false_of (fun c => c.isDigit || c == '.') (by decide) (by simpa using hfirst)
  have hminus : first ≠ '-' := by
    rintro rfl
    simp at hfirst
  simp [htext, opensGap, hblank, hminus]

theorem Token.Kind.IsSpellable.spells {kind : Token.Kind} (h : kind.IsSpellable) :
    Spells kind.printed.toList [kind] := by
  cases kind with
  | keyword k => cases k <;> exact spells_word (by decide +kernel) (by decide +kernel) (by decide +kernel)
  | symbol s => cases s <;> exact spells_token (.symbol _ stops_nil) (by decide)
  | identifier name =>
    have hspelled := Token.Kind.Spelled.quotedName name.toList (.inl rfl) stops_nil
    rw [String.ofList_toList] at hspelled
    exact spells_quoted hspelled (by decide)
  | string contents =>
    have hspelled := Token.Kind.Spelled.string contents.toList stops_nil
    rw [String.ofList_toList] at hspelled
    exact spells_quoted hspelled (by decide)
  | numeral text => exact spells_numeral h
  | boolean value => cases value <;> exact spells_word (by decide) (by decide) (by decide)

theorem intercalate_nil_map_singleton (kinds : List Token.Kind) : [].intercalate (kinds.map ([·])) = kinds := by
  induction kinds with
  | nil => rfl
  | cons kind kinds ih =>
    cases kinds with
    | nil => rfl
    | cons other kinds =>
      rw [List.map_cons, List.map_cons, List.intercalate_cons_cons]
      exact congrArg (kind :: ·) ih

theorem spells_printTokens {kinds : List Token.Kind} (h : ∀ kind ∈ kinds, kind.IsSpellable) :
    Spells (printTokens kinds).toList kinds := by
  have hpieces : List.Forall₂ Spells (kinds.map fun kind => kind.printed.toList) (kinds.map ([·])) := by
    rw [List.forall₂_map_left_iff, List.forall₂_map_right_iff, List.forall₂_same]
    exact fun kind hkind => (h kind hkind).spells
  have hspells := spells_intercalate leads_blank (by decide) hpieces
  rw [intercalate_nil_map_singleton] at hspells
  simpa [printTokens, Function.comp_def] using hspells

end SqlShell
