import SqlShell.Expression
import SqlShell.Parsing.Reader
/-!
# Phrases

A phrase is a reader that is known to take at least one token. Phrases can be repeated, since each repetition
leaves a shorter list: `Phrase.commaSeparated` reads a list of them and `Phrase.joined` reads operands with
operators between them.
-/

namespace SqlShell

/-- A reader that takes at least one token. -/
@[ext]
structure Phrase (α : Type) where
  read : Reader α
  progresses : read.Progresses

namespace Phrase

/-- Reads one or more items with commas between them. -/
def readCommaSeparated {α : Type} (item : Phrase α) (tokens : List Token) :
    Except Failure (List α × List Token) :=
  match _hitem : item.read tokens with
  | .error e => .error e
  | .ok (a, []) => .ok ([a], [])
  | .ok (a, t :: rest) =>
    if t.kind = .symbol .comma then
      match readCommaSeparated item rest with
      | .error e => .error e
      | .ok (items, after) => .ok (a :: items, after)
    else .ok ([a], t :: rest)
termination_by tokens.length
decreasing_by
  have hlt := (item.progresses _hitem).2
  simp only [List.length_cons] at hlt
  omega

/-- Goes on behind the tree on the left: while an operator comes next that something is to be read behind, takes the
operator, reads that, and joins both to the tree. -/
def readJoined (right? : Token.Kind → Option (Phrase Expression)) (left : Expression) : Reader Expression
  | [] => .ok (left, [])
  | t :: rest =>
    match right? t.kind with
    | none => .ok (left, t :: rest)
    | some operand =>
      match _hoperand : operand.read rest with
      | .error e => .error e
      | .ok (right, after) => readJoined right? (.binary t left right) after
termination_by tokens => tokens.length
decreasing_by
  have hlt := (operand.progresses _hoperand).2
  simp only [List.length_cons]
  omega

theorem readCommaSeparated_progresses {α : Type} (item : Phrase α) :
    Reader.Progresses (readCommaSeparated item) := by
  intro tokens items rest h
  fun_induction readCommaSeparated item tokens generalizing items rest with
  | case1 => simp at h
  | case2 tokens a hitem =>
    obtain ⟨-, rfl⟩ := Prod.mk.inj (Except.ok.inj h)
    exact item.progresses hitem
  | case3 => simp at h
  | case4 tokens a t tail hitem hcomma more after hmore ih =>
    obtain ⟨-, rfl⟩ := Prod.mk.inj (Except.ok.inj h)
    obtain ⟨hsuffix, hlt⟩ := item.progresses hitem
    obtain ⟨hsuffix', hlt'⟩ := ih hmore
    simp only [List.length_cons] at hlt
    exact ⟨hsuffix'.trans ((List.suffix_cons t tail).trans hsuffix), by omega⟩
  | case5 tokens a t tail hitem hcomma =>
    obtain ⟨-, rfl⟩ := Prod.mk.inj (Except.ok.inj h)
    exact item.progresses hitem

theorem readJoined_fromFront (right? : Token.Kind → Option (Phrase Expression)) (left : Expression) :
    Reader.FromFront (readJoined right? left) := by
  intro tokens e rest h
  fun_induction readJoined right? left tokens generalizing e rest with
  | case1 =>
    obtain ⟨-, rfl⟩ := Prod.mk.inj (Except.ok.inj h)
    exact List.suffix_refl _
  | case2 =>
    obtain ⟨-, rfl⟩ := Prod.mk.inj (Except.ok.inj h)
    exact List.suffix_refl _
  | case3 => simp at h
  | case4 left t tail operand ht right after hoperand ih =>
    exact (ih h).trans ((operand.progresses hoperand).1.trans (List.suffix_cons _ _))

/-- One or more items with commas between them. -/
def commaSeparated {α : Type} (item : Phrase α) : Phrase (List α) :=
  ⟨readCommaSeparated item, readCommaSeparated_progresses item⟩

/-- A first operand, and what is joined to it. -/
def joined (first : Phrase Expression) (right? : Token.Kind → Option (Phrase Expression)) : Phrase Expression where
  read := first.read >>= readJoined right?
  progresses := first.progresses.bind (readJoined_fromFront right?)

end Phrase

end SqlShell
