import SqlShell.Text.Blank
import SqlShell.Token.Word
/-!
# Which characters are blank

There are few blanks, so that a kind of characters without blanks is recognised by going through all of them.
-/

namespace SqlShell.Text

/-- The blanks. -/
def blanks : List Char :=
  [0x09, 0x0A, 0x0B, 0x0C, 0x0D, 0x20, 0x85, 0xA0, 0x1680, 0x2000, 0x2001, 0x2002, 0x2003, 0x2004, 0x2005, 0x2006,
    0x2007, 0x2008, 0x2009, 0x200A, 0x2028, 0x2029, 0x202F, 0x205F, 0x3000].map Char.ofNat

theorem mem_blanks {c : Char} (h : isBlank c = true) : c ∈ blanks := by
  refine List.mem_map.2 ⟨c.toNat, ?_, Char.ofNat_toNat c⟩
  simp only [isBlank] at h
  simp only [List.mem_cons, List.not_mem_nil, or_false]
  split at h
  · simp only [Bool.or_eq_true, decide_eq_true_eq, beq_iff_eq] at h
    omega
  · simp only [Bool.or_eq_true, decide_eq_true_eq, beq_iff_eq] at h
    omega

/-- A character is not blank if it is of a kind that no blank is of. -/
theorem isBlank_eq_false_of (p : Char → Bool) (hp : blanks.all (!p ·) = true) {c : Char} (h : p c = true) :
    isBlank c = false := by
  cases hblank : isBlank c with
  | false => rfl
  | true =>
    have hfalse := List.all_eq_true.1 hp c (mem_blanks hblank)
    simp [h] at hfalse

/-- No blank belongs to a name. -/
theorem blanks_all_not_isNameChar : blanks.all (!isNameChar ·) = true := by
  decide +kernel

end SqlShell.Text
