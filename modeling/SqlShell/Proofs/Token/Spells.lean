import Mathlib.Data.List.Forall2
import SqlShell.Proofs.Text.Blanks
import SqlShell.Proofs.Token.Scan
/-!
# Spelling kinds of tokens

A piece of text that spells some kinds of tokens may be put in front of any text that does not run into it (`Spells`),
or of any text at all (`Leads`), and pieces are put together from their parts.
-/

namespace SqlShell

open Text

/-- The text spells these kinds in front of every text that breaks tokens off. -/
def Spells (text : List Char) (kinds : List Token.Kind) : Prop :=
  ∀ rest more, Breaks rest → Scans false rest more → Scans false (text ++ rest) (kinds ++ more)

/-- The text spells these kinds in front of every text. -/
def Leads (text : List Char) (kinds : List Token.Kind) : Prop :=
  ∀ rest more, Scans false rest more → Scans false (text ++ rest) (kinds ++ more)

section Spelling

variable {text first second : List Char} {kinds before behind : List Token.Kind}

theorem Leads.spells (h : Leads text kinds) : Spells text kinds :=
  fun rest more _ hrest => h rest more hrest

theorem Spells.scans (h : Spells text kinds) : Scans false text kinds := by
  simpa using h [] [] (by simp [Breaks]) .finish

theorem Leads.append_leads (h : Leads first before) (h' : Leads second behind) :
    Leads (first ++ second) (before ++ behind) := by
  intro rest more hrest
  rw [List.append_assoc, List.append_assoc]
  exact h _ _ (h' rest more hrest)

theorem Leads.append (h : Leads first before) (h' : Spells second behind) :
    Spells (first ++ second) (before ++ behind) := by
  intro rest more hbreaks hrest
  rw [List.append_assoc, List.append_assoc]
  exact h _ _ (h' rest more hbreaks hrest)

/-- A piece may be put in front of one that starts with a breaker. -/
theorem Spells.append_leads (h : Spells first before) (h' : Leads second behind)
    (hsecond : second.head?.any (· ∈ breakers) = true) : Leads (first ++ second) (before ++ behind) := by
  intro rest more hrest
  have hbreaks : Breaks (second ++ rest) := by
    cases second with
    | nil => simp at hsecond
    | cons c second => simpa [Breaks] using hsecond
  rw [List.append_assoc, List.append_assoc]
  exact h _ _ hbreaks (h' rest more hrest)

theorem spells_token {kind : Token.Kind} {spelling : List Char} (h : kind.Spelled spelling [])
    (hgap : opensGap spelling = false) : Spells spelling [kind] := by
  intro rest more hbreaks hrest
  have hgap' : opensGap (spelling ++ rest) = false := by
    rcases spelling with _ | ⟨c, _ | ⟨d, spelling⟩⟩
    · exact absurd rfl h.ne_nil
    · have hhead : rest.head? ≠ some '-' := by
        intro hhead
        exact absurd (hbreaks '-' hhead) (by decide)
      simp only [opensGap, Bool.or_eq_false_iff] at hgap
      simp [opensGap, hgap.1, hhead]
    · exact hgap
  exact .token (h.exchange (.inl hbreaks)) hgap' hrest

theorem spells_word {kind : Token.Kind} {run : List Char} (hrun : run.all isNameChar = true)
    (hkind : Token.Kind.ofWord? run = some kind) (hgap : opensGap run = false) : Spells run [kind] :=
  spells_token (.word (List.all_eq_true.1 hrun) hkind stops_nil) hgap

theorem leads_blank : Leads [' '] [] :=
  fun _ _ hrest => .blank (by decide) hrest

theorem leads_newline : Leads ['\n'] [] :=
  fun _ _ hrest => .blank (by decide) hrest

/-- A sign that no other sign grows from may stand in front of anything. -/
theorem leads_symbol {c : Char} (s : Symbol) (hs : s.spelling.toList = [c]) (hgrows : s.grows = fun _ => false)
    (hgap : isBlank c = false ∧ c ≠ '-') : Leads [c] [.symbol s] := by
  intro rest more hrest
  have hspelled : (Token.Kind.symbol s).Spelled [c] rest := hs ▸ .symbol s fun _ _ => by rw [hgrows]
  exact .token hspelled (by simp [opensGap, hgap]) hrest

theorem leads_comma : Leads [',', ' '] [.symbol .comma] :=
  (leads_symbol (c := ',') .comma rfl rfl (by decide)).append_leads leads_blank

theorem leads_semicolon : Leads [';', '\n'] [.symbol .semicolon] :=
  (leads_symbol (c := ';') .semicolon rfl rfl (by decide)).append_leads leads_newline

/-- Pieces with a separator between them that breaks them off. -/
theorem spells_intercalate {separator : List Char} {between : List Token.Kind} (hseparator : Leads separator between)
    (hbreaks : separator.head?.any (· ∈ breakers) = true) {texts : List (List Char)} {items : List (List Token.Kind)}
    (h : List.Forall₂ Spells texts items) : Spells (separator.intercalate texts) (between.intercalate items) := by
  induction h with
  | nil => exact fun rest more _ hrest => hrest
  | @cons text kinds texts items htext htexts ih =>
    cases htexts with
    | nil => simpa using htext
    | cons =>
      rw [List.intercalate_cons_cons, List.intercalate_cons_cons]
      exact (htext.append_leads hseparator hbreaks).append ih

end Spelling

end SqlShell
