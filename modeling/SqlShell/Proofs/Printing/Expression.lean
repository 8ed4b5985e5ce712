import SqlShell.Proofs.Printing.Text
/-!
# Printed expressions

The tokens of a printed expression derive it. By induction on the tree, they derive it from what it is without
parentheses; in a place for something tighter it is printed in parentheses, and in any other place the grammar may
loosen what it derives.
-/

namespace SqlShell

open Parsing

namespace Expression

/-- The expression with all of its tokens moved to the start of the text. -/
def unplaced (e : Expression) : Expression :=
  e.relocate fun _ => Location.start

/-- Where an expression is too loose for its place, the parentheses make it a primary. -/
theorem derives_in {e : Expression} {nesting : Nat} (place : Nonterminal)
    (h : ∀ nesting, e.depth ≤ nesting → Derives nesting e.form (e.kinds.map Token.ofKind) e.unplaced)
    (hdepth : (if e.IsLooser place then e.depth + 1 else e.depth) ≤ nesting) :
    Derives nesting place ((if e.IsLooser place then parenthesized e.kinds else e.kinds).map Token.ofKind)
      e.unplaced := by
  by_cases hlooser : e.IsLooser place
  · rw [if_pos hlooser] at hdepth ⊢
    obtain ⟨inside, rfl⟩ : ∃ inside, nesting = inside + 1 := ⟨nesting - 1, by omega⟩
    have hinside : Derives inside (.chain .disjunction) (e.kinds.map Token.ofKind) e.unplaced :=
      (h inside (by omega)).loosen (Nat.zero_le _)
    have hprimary : Derives (inside + 1) .primary ((parenthesized e.kinds).map Token.ofKind) e.unplaced := by
      rw [parenthesized, List.map_cons, List.map_append]
      exact .parentheses rfl rfl hinside
    exact hprimary.loosen place.rank_le
  · rw [if_neg hlooser] at hdepth ⊢
    exact (h nesting hdepth).loosen (Nat.le_of_not_lt hlooser)

/-- For every nesting that is enough, since a part that stands in parentheses has one less than the whole. -/
theorem WellFormed.derives {e : Expression} (h : e.WellFormed) :
    ∀ nesting, e.depth ≤ nesting → Derives nesting e.form (e.kinds.map Token.ofKind) e.unplaced := by
  induction h with
  | term hleaf => exact fun nesting _ => .leaf hleaf
  | @unary operators operand hne hsigns _ ih =>
    intro nesting hdepth
    have hoperand := derives_in .primary ih hdepth
    have hsigns' : ∀ sign ∈ (operators.reverse.map (·.kind)).map Token.ofKind, IsSign sign.kind := by
      simpa [Token.ofKind] using hsigns
    have hsigned := Derives.signed (by simpa using hne) hsigns' hoperand
    rw [kinds, List.map_append]
    have hoperators : ((operators.reverse.map (·.kind)).map Token.ofKind).reverse =
        operators.map (Token.relocate fun _ => Location.start) := by
      rw [← map_relocate_start, List.map_reverse, List.reverse_reverse]
    rw [hoperators] at hsigned
    exact hsigned
  | @binary operator left right hoperator _ _ ihLeft ihRight =>
    intro nesting hdepth
    obtain ⟨level, hlevel⟩ := Option.isSome_iff_exists.1 hoperator
    have hlevelOf : levelOf operator = level := by rw [levelOf, hlevel, Option.getD_some]
    rw [depth, Nat.max_le] at hdepth
    have hleft := derives_in (.chain (levelOf operator)) ihLeft hdepth.1
    have hright := derives_in (levelOf operator).part ihRight hdepth.2
    rw [kinds, List.map_append, List.map_cons]
    exact .binary (hlevel.trans (congrArg some hlevelOf.symm)) hleft hright

/-! ### Tokens -/

variable {nesting : Nat} {e : Expression}

theorem Printable.derives (h : e.Printable nesting) :
    Derives nesting (.chain .disjunction) (e.kinds.map Token.ofKind) e.unplaced :=
  (h.wellFormed.derives nesting h.depth_le).loosen (Nat.zero_le _)

/-- No expression starts with a star. -/
theorem Printable.kinds_eq_cons (h : e.Printable nesting) :
    ∃ first others, e.kinds = first :: others ∧ first ≠ .symbol .asterisk := by
  obtain ⟨t, tail, htokens, ht⟩ := h.derives.eq_cons
  cases hkinds : e.kinds with
  | nil => simp [hkinds] at htokens
  | cons first others =>
    rw [hkinds] at htokens
    obtain ⟨rfl, -⟩ := List.cons.inj htokens
    refine ⟨first, others, rfl, ?_⟩
    rintro rfl
    rcases ht with ht | ht | ht <;> cases ht

theorem Printable.takes {followers : List Token.Kind} (h : e.Printable nesting)
    (hfollowers : ∀ kind ∈ followers, level? kind = none) :
    Takes followers (expression nesting).read e.kinds e.unplaced :=
  takes_expression h.derives hfollowers

end Expression

end SqlShell
