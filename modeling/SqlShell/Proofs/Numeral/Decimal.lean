import Mathlib.Data.List.TakeWhile
import SqlShell.Proofs.Numeral.Written
import SqlShell.Numeral.Value
/-!
# Decimal digits

Digits without a point or an exponent stand for the number that they spell in base ten, if that is an int. So the
decimal digits of an int's magnitude, with a minus sign where the int is negative, stand for that int.
-/

namespace SqlShell.Numeral

variable {ds : List Char}

/-! ### The parts of a run of digits -/

theorem mantissaText_of_digits (hds : ∀ d ∈ ds, d.isDigit = true) : mantissaText ds = ds := by
  refine List.takeWhile_eq_self_iff.2 fun d hd => ?_
  simp [not_isMarker_of_isDigit (hds d hd)]

theorem exponentValue?_of_digits (hds : ∀ d ∈ ds, d.isDigit = true) : exponentValue? ds = some 0 := by
  have hnil : ds.dropWhile (!isMarker ·) = [] := by
    have hall := mantissaText_of_digits hds
    have hsplit : ds.takeWhile (!isMarker ·) ++ ds.dropWhile (!isMarker ·) = ds := List.takeWhile_append_dropWhile
    rw [mantissaText] at hall
    rw [hall] at hsplit
    exact List.append_right_eq_self.1 hsplit
  rw [exponentValue?, hnil]

theorem ne_point_of_isDigit {d : Char} (hd : d.isDigit = true) : (d != '.') = true := by
  rw [bne_iff_ne]
  rintro rfl
  exact absurd hd (by decide)

theorem wholeText_of_digits (hds : ∀ d ∈ ds, d.isDigit = true) : wholeText ds = ds :=
  List.takeWhile_eq_self_iff.2 fun d hd => ne_point_of_isDigit (hds d hd)

theorem fractionText_of_digits (hds : ∀ d ∈ ds, d.isDigit = true) : fractionText ds = [] := by
  have hnil : ds.dropWhile (· != '.') = [] := List.dropWhile_eq_nil_iff.2 fun d hd => ne_point_of_isDigit (hds d hd)
  rw [fractionText, hnil, List.drop_nil]

theorem digitsValue_dropWhile_zero (ds : List Char) : digitsValue (ds.dropWhile (· == '0')) = digitsValue ds := by
  induction ds with
  | nil => rfl
  | cons d ds ih =>
    by_cases hd : d = '0'
    · rw [List.dropWhile_cons_of_pos (by simp [hd]), ih, hd]
      rfl
    · rw [List.dropWhile_cons_of_neg (by simp [hd])]

/-- Digits stand for the number that they spell. -/
theorem toInt64_of_digits (hds : ∀ d ∈ ds, d.isDigit = true) (negative : Bool) :
    toInt64 ds negative = signed negative (digitsValue ds) := by
  have hall : (ds ++ []).all Char.isDigit = true := by simpa using hds
  have hvalue := digitsValue_dropWhile_zero ds
  rw [toInt64]
  simp only [mantissaText_of_digits hds, exponentValue?_of_digits hds, wholeText_of_digits hds,
    fractionText_of_digits hds, hall]
  rw [List.append_nil]
  by_cases hzero : ds.dropWhile (· == '0') = []
  · rw [hzero] at hvalue
    rw [if_pos hzero, ← hvalue]
    cases negative <;> rfl
  · have hscale : (0 : Int) - ([] : List Char).length = 0 := rfl
    have hlow : ¬(0 : Int) < -intBound := by decide
    have hnonnegative : ¬(0 : Int) < 0 := by decide
    have hhigh : (0 : Int) ≤ 18 := by decide
    rw [if_neg hzero, hscale, if_neg hlow, scaled, if_neg hnonnegative, if_pos hhigh, hvalue]
    exact congrArg (signed negative) (Nat.mul_one _)

/-! ### The digits of a number -/

theorem digitsValue_repr (n : Nat) : digitsValue n.repr.toList = n := by
  rw [Nat.toList_repr, digitsValue, ← Nat.ofDigitChars_eq_foldl]
  exact Nat.ofDigitChars_ten_toDigits

theorem isDigit_of_mem_repr {n : Nat} {d : Char} (hd : d ∈ n.repr.toList) : d.isDigit = true := by
  rw [Nat.toList_repr] at hd
  exact Nat.isDigit_of_mem_toDigits (by decide) (by decide) hd

theorem toInt64_repr (n : Nat) (negative : Bool) : toInt64 n.repr.toList negative = signed negative n := by
  rw [toInt64_of_digits (fun _ => isDigit_of_mem_repr), digitsValue_repr]

/-- An int is the int of its magnitude and its sign. -/
theorem signed_natAbs (value : Int64) : signed (decide (value.toInt < 0)) value.toInt.natAbs = .ok value := by
  have hlow := value.le_toInt
  have hhigh := value.toInt_lt
  by_cases hnegative : value.toInt < 0
  · have hmagnitude : -(value.toInt.natAbs : Int) = value.toInt := by omega
    have hbound : value.toInt.natAbs ≤ intBound := by
      rw [intBound]
      omega
    simp only [signed, hnegative, decide_true, if_true, if_pos hbound, hmagnitude, Int64.ofInt_toInt]
  · have hmagnitude : (value.toInt.natAbs : Int) = value.toInt := by omega
    have hbound : value.toInt.natAbs < intBound := by
      rw [intBound]
      omega
    simp only [signed, hnegative, decide_false, Bool.false_eq_true, if_false, if_pos hbound, hmagnitude,
      Int64.ofInt_toInt]

end SqlShell.Numeral
