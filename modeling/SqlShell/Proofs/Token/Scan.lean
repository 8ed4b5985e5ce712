import SqlShell.Proofs.Token.Spelling
import SqlShell.Token.Lexing
/-!
# Scanning a text

`Scans inComment text kinds` says that a text consists of gaps and of tokens of the given kinds, where the text may
start inside a comment. It is the lexer without locations, taken apart into steps of one gap character or one token, and
inductions over a text run along these steps. `scans_iff_lexFrom` says that nothing is lost: the lexer gives tokens of
some kinds, at whatever location it starts, exactly if the text scans as these kinds.
-/

namespace SqlShell

open Text

variable {c : Char} {text rest : List Char} {kinds : List Token.Kind}

/-- A blank or a comment sign comes next. -/
def opensGap : List Char → Bool
  | [] => false
  | c :: rest => isBlank c || (c == '-' && rest.head? == some '-')

/-- The text consists of gaps and of tokens of these kinds. -/
inductive Scans : (inComment : Bool) → List Char → List Token.Kind → Prop
  | finish {inComment : Bool} : Scans inComment [] []
  | comment {c : Char} {rest : List Char} {kinds : List Token.Kind} (h : Scans (c != '\n') rest kinds) :
      Scans true (c :: rest) kinds
  | blank {c : Char} {rest : List Char} {kinds : List Token.Kind} (hc : isBlank c = true)
      (h : Scans false rest kinds) : Scans false (c :: rest) kinds
  | opening {rest : List Char} {kinds : List Token.Kind} (h : Scans true ('-' :: rest) kinds) :
      Scans false ('-' :: '-' :: rest) kinds
  | token {kind : Token.Kind} {spelling rest : List Char} {kinds : List Token.Kind}
      (hspelled : kind.Spelled spelling rest) (hgap : opensGap (spelling ++ rest) = false)
      (h : Scans false rest kinds) : Scans false (spelling ++ rest) (kind :: kinds)

theorem Token.Kind.Spelled.ne_nil {kind : Token.Kind} {spelling : List Char} (h : kind.Spelled spelling rest) :
    spelling ≠ [] :=
  (Lexeme.read?_tiles (Lexeme.read?_of_spelled h)).2

/-! ### Gaps -/

theorem splitGap_of_not_opensGap (h : opensGap text = false) : splitGap false text = ([], text) := by
  cases text with
  | nil => rfl
  | cons c rest =>
    simp only [opensGap, Bool.or_eq_false_iff, Bool.and_eq_false_imp, beq_iff_eq] at h
    have hcomment : ¬(c = '-' ∧ rest.head? = some '-') := by
      rintro ⟨hc, hrest⟩
      simp [hrest] at h
      exact h.2 hc
    simp [splitGap, h.1, hcomment]

theorem opensGap_splitGap (inComment : Bool) (text : List Char) : opensGap (splitGap inComment text).2 = false := by
  fun_induction splitGap inComment text with
  | case5 inComment c rest hcomment hblank hsign =>
    have hsign' : (c == '-' && rest.head? == some '-') = false := by simpa using hsign
    simp only [opensGap, hsign', Bool.or_false]
    simpa using hblank
  | _ => simp_all [opensGap]

theorem opensGap_of_splitGap {inComment : Bool} {gap : List Char} (h : splitGap inComment text = (gap, rest)) :
    opensGap rest = false := by
  have hopens := opensGap_splitGap inComment text
  rwa [h] at hopens

theorem Scans.eq_nil_of_nil {inComment : Bool} (h : Scans inComment [] kinds) : kinds = [] := by
  generalize htext : ([] : List Char) = text at h
  cases h with
  | finish => rfl
  | token hspelled => exact absurd (List.append_eq_nil_iff.1 htext.symm).1 hspelled.ne_nil
  | _ => simp at htext

theorem Scans.of_splitGap {inComment : Bool} (h : Scans false (splitGap inComment text).2 kinds) :
    Scans inComment text kinds := by
  fun_induction splitGap inComment text with
  | case1 => exact h.eq_nil_of_nil ▸ .finish
  | case2 c rest gap after hsplit ih =>
    rw [hsplit] at ih
    exact .comment (ih h)
  | case3 inComment c rest hcomment hblank gap after hsplit ih =>
    obtain rfl : inComment = false := by simpa using hcomment
    rw [hsplit] at ih
    exact .blank hblank (ih h)
  | case4 inComment c rest hcomment _ hsign gap after hsplit ih =>
    obtain rfl : inComment = false := by simpa using hcomment
    rw [hsplit] at ih
    obtain ⟨rfl, hrest⟩ := hsign
    cases rest with
    | nil => simp at hrest
    | cons d rest =>
      obtain rfl : d = '-' := by simpa using hrest
      exact .opening (ih h)
  | case5 inComment c rest hcomment =>
    obtain rfl : inComment = false := by simpa using hcomment
    exact h

theorem Scans.splitGap {inComment : Bool} (h : Scans inComment text kinds) :
    Scans false (splitGap inComment text).2 kinds := by
  induction h with
  | finish => exact .finish
  | comment _ ih => simpa [SqlShell.splitGap] using ih
  | blank hc _ ih => simpa [SqlShell.splitGap, hc] using ih
  | opening _ ih =>
    have hblank : isBlank '-' = false := by decide
    simpa [SqlShell.splitGap, hblank] using ih
  | token hspelled hgap h =>
    rw [splitGap_of_not_opensGap hgap]
    exact .token hspelled hgap h

/-- Where no gap comes next, a token does. -/
theorem Scans.read? (h : Scans false text kinds) (hne : text ≠ []) (hgap : opensGap text = false) :
    ∃ l more, Lexeme.read? text = some l ∧ kinds = l.kind :: more ∧ Scans false l.rest more := by
  cases h with
  | finish => exact absurd rfl hne
  | blank hc => simp [opensGap, hc] at hgap
  | opening => simp [opensGap] at hgap
  | token hspelled _ h => exact ⟨_, _, Lexeme.read?_of_spelled hspelled, rfl, h⟩

/-- Behind the gap that comes first, a token comes next. -/
theorem Scans.read?_of_splitGap {gap : List Char} (h : Scans false text kinds)
    (hgap : SqlShell.splitGap false text = (gap, c :: rest)) :
    ∃ l more, Lexeme.read? (c :: rest) = some l ∧ kinds = l.kind :: more ∧ Scans false l.rest more := by
  have hafter := h.splitGap
  rw [hgap] at hafter
  exact hafter.read? (List.cons_ne_nil _ _) (opensGap_of_splitGap hgap)

/-! ### The lexer -/

theorem scans_of_lexFrom {start : Location} {tokens : List Token} (h : lexFrom start text = .ok tokens) :
    Scans false text (tokens.map (·.kind)) := by
  fun_induction lexFrom start text generalizing tokens with
  | case1 start text gap hgap =>
    obtain rfl := Except.ok.inj h
    exact .of_splitGap (by rw [hgap]; exact .finish)
  | case2 => simp at h
  | case3 => simp at h
  | case4 start text gap c rest hgap lexeme hread more hmore ih =>
    obtain rfl := Except.ok.inj h
    have hspelled := Lexeme.spelled_of_read? hread
    have htext := (Lexeme.read?_tiles hread).1
    refine .of_splitGap ?_
    have hopens := opensGap_of_splitGap hgap
    rw [hgap]
    rw [← htext] at hopens ⊢
    exact .token hspelled hopens (ih hmore)

theorem Scans.lexFrom (h : Scans false text kinds) (start : Location) :
    ∃ tokens, lexFrom start text = .ok tokens ∧ tokens.map (·.kind) = kinds := by
  fun_induction SqlShell.lexFrom start text generalizing kinds with
  | case1 start text gap hgap =>
    have hend := h.splitGap
    rw [hgap] at hend
    exact ⟨[], rfl, hend.eq_nil_of_nil.symm⟩
  | case2 start text gap c rest hgap hread =>
    obtain ⟨l, more, hl, -⟩ := h.read?_of_splitGap hgap
    simp [hread] at hl
  | case3 start text gap c rest hgap lexeme hread e he ih =>
    obtain ⟨l, more, hl, -, hmore⟩ := h.read?_of_splitGap hgap
    obtain rfl := Option.some.inj (hread.symm.trans hl)
    obtain ⟨tokens, htokens, -⟩ := ih hmore
    simp [he] at htokens
  | case4 start text gap c rest hgap lexeme hread tokens htokens ih =>
    obtain ⟨l, more, hl, rfl, hmore⟩ := h.read?_of_splitGap hgap
    obtain rfl := Option.some.inj (hread.symm.trans hl)
    obtain ⟨found, hfound, hkinds⟩ := ih hmore
    obtain rfl := Except.ok.inj (htokens.symm.trans hfound)
    exact ⟨_, rfl, by rw [List.map_cons, hkinds]⟩

/-- The lexer gives tokens of the kinds that the text scans as, wherever it starts. -/
theorem scans_iff_lexFrom (start : Location) :
    Scans false text kinds ↔ ∃ tokens, lexFrom start text = .ok tokens ∧ tokens.map (·.kind) = kinds := by
  constructor
  · intro h
    exact h.lexFrom start
  · rintro ⟨tokens, htokens, rfl⟩
    exact scans_of_lexFrom htokens

end SqlShell
