import SqlShell.Parsing.Batch
/-!
# Repetitions case by case

Lists, operands with operators between them and batches are read by recursion on the tokens that are left. Each of them has one
equation for each way a round can end; later proofs follow these equations and never unfold the recursions.
-/

namespace SqlShell

namespace Phrase

variable {α : Type} {item : Phrase α} {tokens rest : List Token} {a : α} {t : Token} {e : Failure}

theorem readCommaSeparated_of_error (h : item.read tokens = .error e) :
    item.readCommaSeparated tokens = .error e := by
  rw [readCommaSeparated.eq_def]
  split <;> simp_all

/-- The list ends behind an item that no comma follows. -/
theorem readCommaSeparated_of_last (h : item.read tokens = .ok (a, rest))
    (hrest : ∀ u ∈ rest.head?, u.kind ≠ .symbol .comma) :
    item.readCommaSeparated tokens = .ok ([a], rest) := by
  rw [readCommaSeparated.eq_def]
  split
  · simp_all
  · simp_all
  next b u tail hitem =>
    obtain ⟨rfl, rfl⟩ := Prod.mk.inj (Except.ok.inj (h.symm.trans hitem))
    rw [if_neg (hrest u rfl)]

theorem readCommaSeparated_of_comma (h : item.read tokens = .ok (a, t :: rest)) (ht : t.kind = .symbol .comma) :
    item.readCommaSeparated tokens = (item.readCommaSeparated rest).map fun (items, after) => (a :: items, after) := by
  rw [readCommaSeparated.eq_def]
  split
  · simp_all
  · simp_all
  next b u tail hitem =>
    obtain ⟨rfl, hcons⟩ := Prod.mk.inj (Except.ok.inj (h.symm.trans hitem))
    obtain ⟨rfl, rfl⟩ := List.cons.inj hcons
    rw [if_pos ht]
    cases item.readCommaSeparated rest <;> rfl

variable {right? : Token.Kind → Option (Phrase Expression)} {operand : Phrase Expression} {left right : Expression}

/-- Nothing is joined where nothing is to be read behind the next token. -/
theorem readJoined_of_end (hrest : ∀ u ∈ rest.head?, right? u.kind = none) :
    readJoined right? left rest = .ok (left, rest) := by
  match rest with
  | [] => rw [readJoined]
  | u :: rest =>
    have hu : right? u.kind = none := hrest u rfl
    rw [readJoined.eq_def]
    simp only [hu]

theorem readJoined_of_error (ht : right? t.kind = some operand) (h : operand.read rest = .error e) :
    readJoined right? left (t :: rest) = .error e := by
  rw [readJoined.eq_def]
  simp only [ht]
  split <;> simp_all

theorem readJoined_of_operand {after : List Token} (ht : right? t.kind = some operand)
    (h : operand.read rest = .ok (right, after)) :
    readJoined right? left (t :: rest) = readJoined right? (.binary t left right) after := by
  rw [readJoined.eq_def right? left (t :: rest)]
  simp only [ht]
  split
  · simp_all
  next found after' hfound =>
    obtain ⟨rfl, rfl⟩ := Prod.mk.inj (Except.ok.inj (h.symm.trans hfound))
    rfl

/-- It goes on to where nothing more is to be joined. -/
theorem readJoined_ends {after : List Token} (h : readJoined right? left tokens = .ok (right, after)) :
    ∀ u ∈ after.head?, right? u.kind = none := by
  fun_induction readJoined right? left tokens with
  | case1 =>
    obtain ⟨-, rfl⟩ := Prod.mk.inj (Except.ok.inj h)
    simp
  | case2 left t rest ht =>
    obtain ⟨-, rfl⟩ := Prod.mk.inj (Except.ok.inj h)
    simpa using ht
  | case3 => simp at h
  | case4 left t rest operand ht right after hoperand ih => exact ih h

end Phrase

namespace Parsing

variable {nesting : Nat} {t u : Token} {tokens rest : List Token} {s : Statement} {f : Failure}

theorem readBatch_of_error (h : (statement nesting).read (t :: tokens) = .error f) :
    readBatch nesting (t :: tokens) = ⟨[], t :: tokens, some f⟩ := by
  rw [readBatch.eq_def]
  simp only
  split <;> simp_all

theorem readBatch_of_last (h : (statement nesting).read (t :: tokens) = .ok (s, [])) :
    readBatch nesting (t :: tokens) = ⟨[s], [], none⟩ := by
  rw [readBatch.eq_def]
  simp only
  split <;> simp_all

/-- A batch goes on behind a semicolon. -/
theorem readBatch_of_semicolon (h : (statement nesting).read (t :: tokens) = .ok (s, u :: rest))
    (hu : u.kind = .symbol .semicolon) :
    readBatch nesting (t :: tokens) =
      { readBatch nesting rest with statements := s :: (readBatch nesting rest).statements } := by
  rw [readBatch.eq_def]
  simp only
  split
  · simp_all
  · simp_all
  next found v tail hfound =>
    obtain ⟨rfl, hcons⟩ := Prod.mk.inj (Except.ok.inj (h.symm.trans hfound))
    obtain ⟨rfl, rfl⟩ := List.cons.inj hcons
    rw [if_pos hu]

theorem readBatch_of_other (h : (statement nesting).read (t :: tokens) = .ok (s, u :: rest))
    (hu : u.kind ≠ .symbol .semicolon) :
    readBatch nesting (t :: tokens) = ⟨[s], u :: rest, some ⟨.statementEnd, u :: rest⟩⟩ := by
  rw [readBatch.eq_def]
  simp only
  split <;> simp_all

end Parsing

end SqlShell
