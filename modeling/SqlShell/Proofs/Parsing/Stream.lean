import SqlShell.Proofs.Parsing.Grammar
/-!
# Reading on a stream

A stream makes a reader read on from its place and counts the tokens that the reader takes. What is known of a reader
on token lists is so known of places in a stream; for expressions this is the grammar
(`TokenStream.expression_eq_ok_iff`).
-/

namespace SqlShell

open Parsing

namespace TokenStream

variable {stream next : TokenStream} {taken rest : List Token}

theorem run_eq_ok {α : Type} {reader : Reader α} {a : α} :
    stream.run reader = (.ok a, next) ↔ ∃ rest, reader stream.rest = .ok (a, rest) ∧ next = stream.moveTo rest := by
  rw [run]
  split
  · next hread => simp [hread]
  · next found rest hread =>
    constructor
    · intro h
      obtain ⟨hfound, hnext⟩ := Prod.mk.inj h
      exact ⟨rest, by rw [hread, Except.ok.inj hfound], hnext.symm⟩
    · rintro ⟨other, hother, rfl⟩
      obtain ⟨rfl, rfl⟩ := Prod.mk.inj (Except.ok.inj (hread.symm.trans hother))
      rfl

/-- The place moves over the tokens that are taken. -/
theorem moveTo_of_append (h : stream.rest = taken ++ rest) :
    stream.moveTo rest = { stream with taken := stream.taken + taken.length } := by
  rw [moveTo, h, List.length_append, Nat.add_sub_cancel]

/-! ### Stretches of tokens -/

variable {tokens : List Token} {start stop : Nat}

theorem drop_eq_stretch_append (h : start ≤ stop) :
    tokens.drop start = tokens.extract start stop ++ tokens.drop stop := by
  have hbehind : (tokens.drop start).drop (stop - start) = tokens.drop stop := by
    rw [List.drop_drop, Nat.add_sub_cancel' h]
  rw [List.extract_eq_take_drop, ← hbehind, List.take_append_drop]

theorem stretch_of_drop (h : tokens.drop start = taken ++ rest) :
    tokens.extract start (start + taken.length) = taken ∧ tokens.drop (start + taken.length) = rest := by
  constructor
  · rw [List.extract_eq_take_drop, h, Nat.add_sub_cancel_left, List.take_left]
  · rw [← List.drop_drop, h, List.drop_left]

theorem length_stretch (hstart : start ≤ stop) (hstop : stop ≤ tokens.length) :
    start + (tokens.extract start stop).length = stop := by
  rw [List.extract_eq_take_drop, List.length_take, List.length_drop]
  omega

/-! ### Expressions -/

theorem not_goesOn_disjunction {kind : Token.Kind} :
    ¬(Nonterminal.chain .disjunction).GoesOn kind ↔ level? kind = none := by
  simp [goesOn_disjunction, Option.eq_none_iff_forall_ne_some]

/-- With no parenthesis open, an expression is read exactly from a stretch of tokens that the grammar derives it from,
with at most 256 parentheses open at once, and that no binary operator follows. -/
theorem expression_eq_ok_iff {tokens : List Token} {start : Nat} {e : Expression} {next : TokenStream} :
    (TokenStream.mk tokens start 0).expression = (.ok e, next) ↔
      ∃ stop, next = ⟨tokens, stop, 0⟩ ∧ start ≤ stop ∧ stop ≤ tokens.length ∧
        Derives 256 (.chain .disjunction) (tokens.extract start stop) e ∧
        ∀ t ∈ tokens[stop]?, level? t.kind = none := by
  have hrecognizes : ∀ rest, (Parsing.expression nestingLimit).read (tokens.drop start) = .ok (e, rest) ↔ _ :=
    expression_recognizes nestingLimit (tokens.drop start) e
  rw [expression, run_eq_ok]
  constructor
  · rintro ⟨rest, hread, rfl⟩
    obtain ⟨taken, htokens, hderives, hend⟩ := (hrecognizes rest).1 hread
    obtain ⟨hstretch, hrest⟩ := stretch_of_drop htokens
    have hstop : start + taken.length ≤ tokens.length := by
      obtain ⟨t, tail, rfl, -⟩ := hderives.eq_cons
      have hlength := congrArg List.length htokens
      simp only [List.length_drop, List.length_append, List.length_cons] at hlength ⊢
      omega
    refine ⟨start + taken.length, moveTo_of_append htokens, Nat.le_add_right _ _, hstop, ?_, ?_⟩
    · rw [hstretch]
      exact hderives
    · intro t ht
      rw [← List.head?_drop, hrest] at ht
      exact not_goesOn_disjunction.1 (hend t ht)
  · rintro ⟨stop, rfl, hstart, hstop, hderives, hend⟩
    have htokens : tokens.drop start = _ := drop_eq_stretch_append hstart
    have hend' : ∀ t ∈ (tokens.drop stop).head?, ¬(Nonterminal.chain .disjunction).GoesOn t.kind := by
      intro t ht
      rw [List.head?_drop] at ht
      exact not_goesOn_disjunction.2 (hend t ht)
    have hmoved : (TokenStream.mk tokens start 0).moveTo (tokens.drop stop) = _ := moveTo_of_append htokens
    refine ⟨tokens.drop stop, (hrecognizes _).2 ⟨_, htokens, hderives, hend'⟩, ?_⟩
    rw [hmoved]
    exact congrArg (TokenStream.mk tokens · 0) (length_stretch hstart hstop).symm

end TokenStream

end SqlShell
