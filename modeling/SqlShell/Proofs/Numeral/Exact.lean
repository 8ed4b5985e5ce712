import SqlShell.Execution.Binding
import SqlShell.Proofs.Numeral.Denotation
/-!
# Exactness of numbers

The int that is made of a number is the number that it denotes (`int_is_exact`): no digit is lost where the point is
moved, no power of ten overflows, and what is refused is not whole, is not an int, or has an exponent of more than 64
bits. A minus in front of a number negates the int, and the least int can be written with it.
-/

namespace SqlShell.Numeral

variable {text ds : List Char} {value : ℚ} {exponent scale : ℤ} {negative : Bool} {n : Int64}

/-! ### Powers of ten -/

theorem ofInt_eq_iff {k : ℤ} (hlow : -2 ^ 63 ≤ k) (hhigh : k < 2 ^ 63) : Int64.ofInt k = n ↔ n.toInt = k := by
  rw [← Int64.toInt_inj, Int64.toInt_ofInt_of_le hlow hhigh, eq_comm]

theorem signed_eq_ok {magnitude : ℕ} :
    signed negative magnitude = .ok n ↔ n.toInt = if negative then -(magnitude : ℤ) else magnitude := by
  have hlow := n.le_toInt
  have hhigh := n.toInt_lt
  have hbound : intBound = 2 ^ 63 := rfl
  cases negative
  · simp only [signed, Bool.false_eq_true, if_false]
    split
    · rw [Except.ok.injEq, ofInt_eq_iff (by omega) (by omega)]
    · exact iff_of_false (by simp) (by omega)
  · simp only [signed, if_true]
    split
    · rw [Except.ok.injEq, ofInt_eq_iff (by omega) (by omega)]
    · exact iff_of_false (by simp) (by omega)

/-- The int is the value, or its negation. -/
def IsSigned (n : Int64) (negative : Bool) (value : ℚ) : Prop :=
  (n.toInt : ℚ) = if negative then -value else value

theorem isSigned_natCast {magnitude : ℕ} : IsSigned n negative magnitude ↔ signed negative magnitude = .ok n := by
  rw [signed_eq_ok, IsSigned]
  cases negative <;> norm_cast

theorem IsSigned.exists_natCast (h : IsSigned n negative value) (hvalue : 0 ≤ value) :
    ∃ magnitude : ℕ, value = magnitude := by
  refine ⟨n.toInt.natAbs, ?_⟩
  rw [Nat.cast_natAbs, Int.cast_abs, h]
  cases negative
  · exact (abs_of_nonneg hvalue).symm
  · exact ((abs_neg value).trans (abs_of_nonneg hvalue)).symm

theorem mul_zpow_neg_eq_natCast {magnitude whole k : ℕ} :
    (magnitude : ℚ) * 10 ^ (-(k : ℤ)) = whole ↔ magnitude = 10 ^ k * whole := by
  rw [zpow_neg, zpow_natCast, ← div_eq_mul_inv, div_eq_iff (by positivity), mul_comm (whole : ℚ)]
  norm_cast

/-- What a power of ten does not divide is not whole below that power. -/
theorem not_isSigned_of_mod_ne_zero {magnitude k : ℕ} (h : magnitude % 10 ^ k ≠ 0) :
    ¬IsSigned n negative (magnitude * 10 ^ (-(k : ℤ))) := by
  intro hsigned
  obtain ⟨whole, hwhole⟩ := hsigned.exists_natCast (by positivity)
  rw [mul_zpow_neg_eq_natCast.1 hwhole, Nat.mul_mod_right] at h
  exact h rfl

theorem digitsValue_mod_of_length_le {k : ℕ} (hds : ∀ d ∈ ds, d.isDigit = true) (hk : ds.length ≤ k) :
    digitsValue ds % 10 ^ k = digitsValue ds :=
  Nat.mod_eq_of_lt ((digitsValue_lt hds).trans_le (Nat.pow_le_pow_right (by decide) hk))

/-- The last digits of a number are its remainder, and those before them are the quotient. -/
theorem digitsValue_take_drop {k : ℕ} (hds : ∀ d ∈ ds, d.isDigit = true) (hk : k ≤ ds.length) :
    digitsValue ds = 10 ^ k * digitsValue (ds.take (ds.length - k)) + digitsValue (ds.drop (ds.length - k)) ∧
      digitsValue ds % 10 ^ k = digitsValue (ds.drop (ds.length - k)) := by
  have hlength : (ds.drop (ds.length - k)).length = k := by
    rw [List.length_drop]
    omega
  have hdropped : ∀ d ∈ ds.drop (ds.length - k), d.isDigit = true := fun d hd => hds d (List.mem_of_mem_drop hd)
  have hlast := digitsValue_lt hdropped
  have hvalue := digitsValue_append (ds.take (ds.length - k)) (ds.drop (ds.length - k))
  rw [List.take_append_drop, hlength] at hvalue
  rw [hlength] at hlast
  refine ⟨hvalue, ?_⟩
  rw [hvalue, Nat.mul_add_mod, Nat.mod_eq_of_lt hlast]

theorem scaled_neg_eq_ok {k : ℕ} (hds : ∀ d ∈ ds, d.isDigit = true) (hpos : 0 < digitsValue ds) (hk : 0 < k) :
    scaled negative ds (-k) = .ok n ↔ IsSigned n negative (digitsValue ds * 10 ^ (-(k : ℤ))) := by
  rw [scaled, if_pos (by omega), Int.natAbs_neg, Int.natAbs_natCast]
  dsimp only
  by_cases hshort : ds.length ≤ k
  · rw [if_pos (.inl hshort)]
    refine iff_of_false (by simp) (not_isSigned_of_mod_ne_zero ?_)
    rw [digitsValue_mod_of_length_le hds hshort]
    exact hpos.ne'
  · obtain ⟨hvalue, hmod⟩ := digitsValue_take_drop hds (Nat.le_of_not_le hshort)
    have hdropped : ∀ d ∈ ds.drop (ds.length - k), d.isDigit = true := fun d hd => hds d (List.mem_of_mem_drop hd)
    have hzero := digitsValue_eq_zero hdropped
    by_cases hall : ∀ d ∈ ds.drop (ds.length - k), d = '0'
    · rw [if_neg (by simpa [hshort] using hall), ← isSigned_natCast]
      rw [hzero.2 hall, Nat.add_zero, ← mul_zpow_neg_eq_natCast] at hvalue
      rw [hvalue]
    · rw [if_pos (.inr (by simpa using hall))]
      refine iff_of_false (by simp) (not_isSigned_of_mod_ne_zero ?_)
      rw [hmod]
      exact hall ∘ hzero.1

theorem scaled_natCast_eq_ok {k : ℕ} (hpos : 0 < digitsValue ds) :
    scaled negative ds k = .ok n ↔ IsSigned n negative (digitsValue ds * 10 ^ (k : ℤ)) := by
  have hvalue : (digitsValue ds : ℚ) * 10 ^ (k : ℤ) = (digitsValue ds * 10 ^ k : ℕ) := by
    rw [zpow_natCast]
    push_cast
    rfl
  rw [scaled, if_neg (by omega), Int.natAbs_natCast, hvalue, isSigned_natCast]
  by_cases hk : k ≤ 18
  · rw [if_pos (by omega)]
    rfl
  · rw [if_neg (by omega)]
    refine iff_of_false (by simp) fun hsigned => ?_
    -- The digits stand for one at least, and ten to the power nineteen is no int.
    have hlarge : 10 ^ 19 ≤ digitsValue ds * 10 ^ k :=
      (Nat.pow_le_pow_right (by decide) (by omega)).trans (Nat.le_mul_of_pos_left _ hpos)
    have hlow := n.le_toInt
    have hhigh := n.toInt_lt
    rw [signed_eq_ok] at hsigned
    generalize digitsValue ds * 10 ^ k = magnitude at hlarge hsigned
    cases negative <;> simp only [Bool.false_eq_true, if_true, if_false] at hsigned <;> omega

theorem scaled_eq_ok (hds : ∀ d ∈ ds, d.isDigit = true) (hpos : 0 < digitsValue ds) :
    scaled negative ds scale = .ok n ↔ IsSigned n negative (digitsValue ds * 10 ^ scale) := by
  by_cases hscale : 0 ≤ scale
  · obtain ⟨k, rfl⟩ := Int.eq_ofNat_of_zero_le hscale
    exact scaled_natCast_eq_ok hpos
  · obtain ⟨k, rfl⟩ := Int.exists_eq_neg_ofNat (Int.le_of_not_le hscale)
    exact scaled_neg_eq_ok hds hpos (by omega)

/-! ### Signs -/

theorem toInt_neg_of_ne {n : Int64} (hn : n ≠ Int64.minValue) : (-n).toInt = -n.toInt := by
  have hlow := n.le_toInt
  have hhigh := n.toInt_lt
  have hne : n.toInt ≠ -2 ^ 63 := fun h => hn (Int64.toInt_inj.1 h)
  rw [Int64.toInt_neg, Int.bmod_eq_of_le (by omega) (by omega)]

theorem IsSigned.neg (h : IsSigned n false value) (hvalue : 0 ≤ value) :
    n ≠ Int64.minValue ∧ IsSigned (-n) true value := by
  have hn : (n.toInt : ℚ) = value := h
  have hnonneg : 0 ≤ n.toInt := by
    rw [← hn] at hvalue
    exact_mod_cast hvalue
  have hne : n ≠ Int64.minValue := by
    rintro rfl
    exact absurd hnonneg (by decide)
  refine ⟨hne, ?_⟩
  rw [IsSigned, toInt_neg_of_ne hne, Int.cast_neg, hn]
  rfl

theorem IsSigned.of_neg (h : IsSigned n true value) :
    IsSigned (-n) false value ∨ n = Int64.minValue ∧ value = 2 ^ 63 := by
  have hn : (n.toInt : ℚ) = -value := h
  by_cases hne : n = Int64.minValue
  · refine .inr ⟨hne, ?_⟩
    rw [hne, Int64.toInt_minValue] at hn
    rw [← neg_inj, ← hn]
    norm_num
  · refine .inl ?_
    rw [IsSigned, toInt_neg_of_ne hne, Int.cast_neg, hn, neg_neg]
    rfl

/-! ### Numbers -/

theorem toInt64_eq (hread : exponentValue? text = some exponent)
    (hdigits : ∀ d ∈ mantissaDigits (mantissaText text), d.isDigit = true) :
    toInt64 text negative =
      if digitsValue (mantissaDigits (mantissaText text)) = 0 then .ok 0
      else if exponent - (fractionText (mantissaText text)).length < -intBound then .error .outOfRange
      else scaled negative ((mantissaDigits (mantissaText text)).dropWhile (· == '0'))
        (exponent - (fractionText (mantissaText text)).length) := by
  have hall := List.all_eq_true.2 hdigits
  rw [mantissaDigits] at hall
  rw [toInt64, hread]
  dsimp only
  rw [hall, if_neg (by decide), ← mantissaDigits]
  simp only [dropWhile_zero_eq_nil hdigits]

/-- Digits that are not all zero are given their power of ten, unless it has more than 64 bits. -/
theorem shifted_eq_ok (hds : ∀ d ∈ ds, d.isDigit = true) :
    (if digitsValue ds = 0 then .ok 0 else if scale < -intBound then .error .outOfRange
      else scaled negative (ds.dropWhile (· == '0')) scale) = .ok n ↔
    ((digitsValue ds : ℚ) * 10 ^ scale = 0 ∨ -2 ^ 63 ≤ scale) ∧
      IsSigned n negative (digitsValue ds * 10 ^ scale) := by
  by_cases hzero : digitsValue ds = 0
  · rw [if_pos hzero, hzero, Nat.cast_zero, zero_mul, ← Nat.cast_zero, isSigned_natCast]
    cases negative <;> simp [signed, intBound]
  · have hne : (digitsValue ds : ℚ) * 10 ^ scale ≠ 0 := by positivity
    rw [if_neg hzero, or_iff_right hne]
    by_cases hleast : scale < -intBound
    · rw [if_pos hleast]
      exact iff_of_false (by simp) fun h => Int.not_le.2 hleast h.1
    · have hscale : -2 ^ 63 ≤ scale := Int.not_lt.1 hleast
      have hkept : ∀ d ∈ ds.dropWhile (· == '0'), d.isDigit = true :=
        fun d hd => hds d ((List.dropWhile_suffix _).subset hd)
      have hdropped := digitsValue_dropWhile_zero ds
      rw [if_neg hleast, and_iff_right hscale, ← hdropped]
      exact scaled_eq_ok hkept (by omega)

/-- The exponent has 64 bits, and so has the one that remains when the point is moved behind the last digit. -/
def Fits (text : List Char) (value : ℚ) (exponent : ℤ) : Prop :=
  (-2 ^ 63 ≤ exponent ∧ exponent < 2 ^ 63) ∧
    (value = 0 ∨ -2 ^ 63 ≤ exponent - (fractionText (mantissaText text)).length)

/-- A number is made the int that it denotes, or its negation. -/
theorem toInt64_eq_ok (h : Denotes text value exponent) :
    toInt64 text negative = .ok n ↔ Fits text value exponent ∧ IsSigned n negative value := by
  obtain ⟨decimal, hmantissa, hexponent, -⟩ := h.parts
  obtain ⟨hdigits, -, -⟩ := hmantissa.eq_div
  have hread := hexponent.exponentValue?_eq
  by_cases hfits : -2 ^ 63 ≤ exponent ∧ exponent < 2 ^ 63
  · rw [toInt64_eq (hread.trans (if_pos hfits)) hdigits, shifted_eq_ok hdigits, ← h.eq_mul]
    simp only [Fits, hfits, true_and]
  · rw [toInt64, hread.trans (if_neg hfits)]
    exact iff_of_false (by simp) fun hboth => hfits hboth.1.1

/-- In a text that fits in memory there are too few digits for the least powers of ten to leave a whole number. -/
theorem fits_of_isSigned (h : Denotes text value exponent) (hexponent : -2 ^ 63 ≤ exponent ∧ exponent < 2 ^ 63)
    (hlength : text.length < intBound) (hsigned : IsSigned n negative value) : Fits text value exponent := by
  refine ⟨hexponent, or_iff_not_imp_left.2 fun hne => ?_⟩
  obtain ⟨decimal, hmantissa, -, -⟩ := h.parts
  obtain ⟨hdigits, hcount, -⟩ := hmantissa.eq_div
  have htext : (mantissaText text).length ≤ text.length := (List.takeWhile_prefix _).length_le
  by_contra hleast
  obtain ⟨k, hk⟩ := Int.exists_eq_neg_ofNat (by omega : exponent - (fractionText (mantissaText text)).length ≤ 0)
  have hvalue := h.eq_mul
  rw [hk] at hvalue hleast
  rw [intBound] at hlength
  rw [hvalue] at hsigned hne
  refine not_isSigned_of_mod_ne_zero ?_ hsigned
  rw [digitsValue_mod_of_length_le hdigits (by omega)]
  rintro hzero
  rw [hzero, Nat.cast_zero, zero_mul] at hne
  exact hne rfl

/-- A number denotes one value, and the int that is made of it is that value, or its negation where the minus in front
of it belongs to the number. Any other number is refused, as are all exponents that do not have 64 bits. A minus that
belongs to the number gives what the negation of the int would give, and the least int besides. -/
theorem int_is_exact {text : String} (hread : split? text.toList = some (text.toList, [])) :
    ∃ (value : ℚ) (exponent : ℤ), Denotes text.toList value exponent ∧
      (∀ otherValue otherExponent, Denotes text.toList otherValue otherExponent →
        otherValue = value ∧ otherExponent = exponent) ∧
      -- Every text in memory is shorter than that.
      (text.toList.length < intBound → -2 ^ 63 ≤ exponent ∧ exponent < 2 ^ 63 →
        ∀ (negative : Bool) (n : Int64),
          toInt64 text.toList negative = .ok n ↔ (n.toInt : ℚ) = if negative then -value else value) ∧
      (∀ negative : Bool, (¬(-2 ^ 63 ≤ exponent ∧ exponent < 2 ^ 63) ∨
          ¬∃ n : Int64, (n.toInt : ℚ) = if negative then -value else value) →
        ∃ e, toInt64 text.toList negative = .error e ∧ BoundExpression.ofNumeral text negative =
          .error (.numeral e (if negative then "-" ++ text else text))) ∧
      (∀ v, toInt64 text.toList false = .ok v → toInt64 text.toList true = .ok (-v) ∧
        PrefixOperator.negate.apply (.int v) = .ok (.int (-v))) ∧
      ∀ w, toInt64 text.toList true = .ok w →
        toInt64 text.toList false = .ok (-w) ∨ w = Int64.minValue ∧ value = 2 ^ 63 := by
  obtain ⟨value, exponent, hdenotes⟩ := (split?_eq_some_iff.1 hread).1.exists_denotes
  refine ⟨value, exponent, hdenotes, fun _ _ => hdenotes.unique, ?_, ?_, ?_, ?_⟩
  · intro hlength hexponent negative n
    rw [toInt64_eq_ok hdenotes]
    exact and_iff_right_of_imp (fits_of_isSigned hdenotes hexponent hlength)
  · intro negative hrefused
    cases hint : toInt64 text.toList negative with
    | ok n =>
      obtain ⟨hfits, hsigned⟩ := (toInt64_eq_ok hdenotes).1 hint
      exact (hrefused.elim (· hfits.1) (· ⟨n, hsigned⟩)).elim
    | error e => exact ⟨e, rfl, by rw [BoundExpression.ofNumeral, hint]⟩
  · intro v hv
    obtain ⟨hfits, hsigned⟩ := (toInt64_eq_ok hdenotes).1 hv
    obtain ⟨hne, hneg⟩ := hsigned.neg hdenotes.nonneg
    exact ⟨(toInt64_eq_ok hdenotes).2 ⟨hfits, hneg⟩, if_neg hne⟩
  · intro w hw
    obtain ⟨hfits, hsigned⟩ := (toInt64_eq_ok hdenotes).1 hw
    exact hsigned.of_neg.imp_left fun hpos => (toInt64_eq_ok hdenotes).2 ⟨hfits, hpos⟩

/-- The magnitude of the least int, written with a point and an exponent, is an int behind a minus only. -/
theorem int_is_exact_of_least_int :
    let text := "009.2233720368547758080E+18"
    split? text.toList = some (text.toList, []) ∧ text.toList.length < intBound ∧
      Denotes text.toList (2 ^ 63) 18 ∧ toInt64 text.toList true = .ok Int64.minValue ∧
      ∃ e, toInt64 text.toList false = .error e := by
  intro text
  have hread : split? text.toList = some (text.toList, []) := by decide +kernel
  have hlength : text.toList.length < intBound := by decide +kernel
  have hdenotes : Denotes text.toList (2 ^ 63) 18 := by
    have hmantissa := @MantissaValue.point "009".toList "2233720368547758080".toList
      (List.all_eq_true.1 (by decide)) (List.all_eq_true.1 (by decide)) (by decide)
    have hwritten := @ExponentValue.positive 'E' "+".toList "18".toList (by decide) (.inr rfl) (by decide)
      (List.all_eq_true.1 (by decide))
    have h := Denotes.intro hmantissa hwritten
    have hwhole : Nat.ofDigitChars 10 "009".toList 0 = 9 := by decide
    have hfraction : Nat.ofDigitChars 10 "2233720368547758080".toList 0 = 2233720368547758080 := by decide
    have hplaces : "2233720368547758080".toList.length = 19 := by decide
    have hexponent : ((Nat.ofDigitChars 10 "18".toList 0 : ℕ) : ℤ) = 18 := by decide
    have hvalue : (((9 : ℕ) : ℚ) + (2233720368547758080 : ℕ) / 10 ^ 19) * 10 ^ (18 : ℤ) = 2 ^ 63 := by norm_num
    have htext : "009".toList ++ '.' :: "2233720368547758080".toList ++ 'E' :: ("+".toList ++ "18".toList) =
        text.toList := by decide +kernel
    rwa [hwhole, hfraction, hplaces, hexponent, hvalue, htext] at h
  obtain ⟨value, exponent, -, hunique, hexact, hrefused, -, -⟩ := int_is_exact hread
  obtain ⟨rfl, rfl⟩ := hunique _ _ hdenotes
  have hnone : ¬∃ n : Int64, (n.toInt : ℚ) = 2 ^ 63 := by
    rintro ⟨n, hn⟩
    exact n.toInt_lt.ne (by exact_mod_cast hn)
  obtain ⟨e, he, -⟩ := hrefused false (.inr hnone)
  refine ⟨hread, hlength, hdenotes, (hexact hlength (by decide) true _).2 ?_, e, he⟩
  rw [Int64.toInt_minValue]
  norm_num

end SqlShell.Numeral
