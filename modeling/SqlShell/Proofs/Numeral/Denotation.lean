import Mathlib.Algebra.Order.Field.Basic
import Mathlib.Algebra.Order.Field.Power
import Mathlib.Data.Rat.Cast.Order
import Mathlib.Tactic.NormNum
import Mathlib.Tactic.Ring
import SqlShell.Proofs.Numeral.Decimal
/-!
# What numbers denote

A mantissa denotes a decimal fraction and an exponent an integer, and a number denotes the one times ten to the power of
the other. This is a rational number, however large or small. A text denotes one number only, and it is that of the
digits of the text without the point, times a power of ten that makes up for the point (`Denotes.eq_mul`).
-/

namespace SqlShell.Numeral

open Text

/-- The number that a mantissa denotes. -/
inductive MantissaValue : List Char → ℚ → Prop
  | whole {ds : List Char} (hne : ds ≠ []) (hds : ∀ d ∈ ds, d.isDigit = true) :
      MantissaValue ds (Nat.ofDigitChars 10 ds 0)
  | point {ds fs : List Char} (hds : ∀ d ∈ ds, d.isDigit = true) (hfs : ∀ d ∈ fs, d.isDigit = true)
      (hne : ¬(ds = [] ∧ fs = [])) :
      MantissaValue (ds ++ '.' :: fs) (Nat.ofDigitChars 10 ds 0 + Nat.ofDigitChars 10 fs 0 / 10 ^ fs.length)

/-- The number that an exponent denotes. -/
inductive ExponentValue : List Char → ℤ → Prop
  | absent : ExponentValue [] 0
  | positive {letter : Char} {mark ds : List Char} (hletter : isMarker letter = true)
      (hmark : mark = [] ∨ mark = ['+']) (hne : ds ≠ []) (hds : ∀ d ∈ ds, d.isDigit = true) :
      ExponentValue (letter :: (mark ++ ds)) (Nat.ofDigitChars 10 ds 0)
  | negative {letter : Char} {ds : List Char} (hletter : isMarker letter = true) (hne : ds ≠ [])
      (hds : ∀ d ∈ ds, d.isDigit = true) : ExponentValue (letter :: '-' :: ds) (-Nat.ofDigitChars 10 ds 0)

/-- The number that a text denotes, and the exponent in it. -/
inductive Denotes : List Char → ℚ → ℤ → Prop
  | intro {mantissa written : List Char} {value : ℚ} {exponent : ℤ} (hmantissa : MantissaValue mantissa value)
      (hexponent : ExponentValue written exponent) : Denotes (mantissa ++ written) (value * 10 ^ exponent) exponent

variable {text mantissa written ds : List Char} {value : ℚ} {exponent : ℤ}

theorem IsMantissa.exists_value (h : IsMantissa mantissa) : ∃ value, MantissaValue mantissa value := by
  cases h with
  | whole hne hds => exact ⟨_, .whole hne hds⟩
  | point hds hfs hne => exact ⟨_, .point hds hfs hne⟩

theorem IsExponent.exists_value (h : IsExponent written) : ∃ exponent, ExponentValue written exponent := by
  cases h with
  | absent => exact ⟨_, .absent⟩
  | written hletter hmark hne hds =>
    obtain rfl | ⟨c, hc, rfl⟩ := hmark
    · exact ⟨_, .positive hletter (.inl rfl) hne hds⟩
    · rw [isSign, Bool.or_eq_true, beq_iff_eq, beq_iff_eq] at hc
      obtain rfl | rfl := hc
      · exact ⟨_, .positive hletter (.inr rfl) hne hds⟩
      · exact ⟨_, .negative hletter hne hds⟩

theorem IsNumber.exists_denotes (h : IsNumber text) : ∃ value exponent, Denotes text value exponent := by
  obtain ⟨mantissa, written, hmantissa, hexponent, rfl⟩ := h
  obtain ⟨value, hvalue⟩ := hmantissa.exists_value
  obtain ⟨exponent, hexponent⟩ := hexponent.exists_value
  exact ⟨_, _, .intro hvalue hexponent⟩

/-! ### Values of digits -/

theorem digitsValue_append (as bs : List Char) :
    digitsValue (as ++ bs) = 10 ^ bs.length * digitsValue as + digitsValue bs := by
  have h := Nat.ofDigitChars_append (b := 10) (l := as) (m := bs) 0
  rw [Nat.ofDigitChars_eq_ofDigitChars_zero (l := bs)] at h
  exact h

theorem digitsValue_cons (d : Char) (ds : List Char) :
    digitsValue (d :: ds) = 10 ^ ds.length * (d.toNat - '0'.toNat) + digitsValue ds := by
  have h := digitsValue_append [d] ds
  rwa [digitsValue.eq_1 [d], List.foldl_cons, List.foldl_nil, Nat.mul_zero, Nat.zero_add] at h

theorem digitsValue_lt (hds : ∀ d ∈ ds, d.isDigit = true) : digitsValue ds < 10 ^ ds.length := by
  induction ds with
  | nil => decide
  | cons d ds ih =>
    have hrest := ih fun c hc => hds c (List.mem_cons_of_mem _ hc)
    have hnine := (Char.isDigit_iff_toNat.1 (hds d List.mem_cons_self)).2
    have hdigit : d.toNat - '0'.toNat ≤ 9 := Nat.sub_le_of_le_add hnine
    calc digitsValue (d :: ds) = 10 ^ ds.length * (d.toNat - '0'.toNat) + digitsValue ds := digitsValue_cons d ds
      _ < 10 ^ ds.length * 9 + 10 ^ ds.length := Nat.add_lt_add_of_le_of_lt (Nat.mul_le_mul_left _ hdigit) hrest
      _ = 10 ^ (d :: ds).length := by rw [List.length_cons, pow_succ]; ring

theorem digitsValue_eq_zero (hds : ∀ d ∈ ds, d.isDigit = true) : digitsValue ds = 0 ↔ ∀ d ∈ ds, d = '0' := by
  induction ds with
  | nil => simp [digitsValue]
  | cons d ds ih =>
    have hlow := (Char.isDigit_iff_toNat.1 (hds d List.mem_cons_self)).1
    have hzero : d.toNat - '0'.toNat = 0 ↔ d = '0' := by
      rw [Nat.sub_eq_zero_iff_le, ← Char.toNat_inj]
      omega
    rw [digitsValue_cons, Nat.add_eq_zero_iff, ih fun c hc => hds c (List.mem_cons_of_mem _ hc), List.forall_mem_cons,
      Nat.mul_eq_zero, hzero, or_iff_right (Nat.ne_of_gt (Nat.pow_pos (by decide)))]

theorem dropWhile_zero_eq_nil (hds : ∀ d ∈ ds, d.isDigit = true) :
    ds.dropWhile (· == '0') = [] ↔ digitsValue ds = 0 := by
  rw [List.dropWhile_eq_nil_iff, digitsValue_eq_zero hds]
  simp

/-! ### The parts of a number -/

theorem MantissaValue.not_isMarker (h : MantissaValue mantissa value) : ∀ c ∈ mantissa, isMarker c = false := by
  intro c hc
  cases h with
  | whole hne hds => exact not_isMarker_of_isDigit (hds c hc)
  | point hds hfs hne =>
    rcases List.mem_append.1 hc with hc | hc
    · exact not_isMarker_of_isDigit (hds c hc)
    · rcases List.mem_cons.1 hc with rfl | hc
      · decide
      · exact not_isMarker_of_isDigit (hfs c hc)

theorem ExponentValue.stops (h : ExponentValue written exponent) : Stops (!isMarker ·) written := by
  cases h with
  | absent => exact stops_nil
  | positive hletter => exact stops_cons.2 (by simp [hletter])
  | negative hletter => exact stops_cons.2 (by simp [hletter])

theorem mantissaText_append (hmantissa : MantissaValue mantissa value) (hexponent : ExponentValue written exponent) :
    mantissaText (mantissa ++ written) = mantissa ∧ (mantissa ++ written).dropWhile (!isMarker ·) = written := by
  have hrun : ∀ c ∈ mantissa, (!isMarker c) = true := fun c hc => by simp [hmantissa.not_isMarker c hc]
  exact ⟨takeWhile_append hrun hexponent.stops, dropWhile_append hrun hexponent.stops⟩

/-- The digits of a mantissa, without the point. -/
def mantissaDigits (mantissa : List Char) : List Char :=
  wholeText mantissa ++ fractionText mantissa

theorem MantissaValue.eq_div (h : MantissaValue mantissa value) :
    (∀ d ∈ mantissaDigits mantissa, d.isDigit = true) ∧ (mantissaDigits mantissa).length ≤ mantissa.length ∧
      value = digitsValue (mantissaDigits mantissa) / 10 ^ (fractionText mantissa).length := by
  cases h with
  | whole hne hds =>
    rw [mantissaDigits, wholeText_of_digits hds, fractionText_of_digits hds, List.append_nil]
    refine ⟨hds, le_rfl, ?_⟩
    rw [List.length_nil, pow_zero, div_one]
    rfl
  | @point ds fs hds hfs hne =>
    have hrun : ∀ d ∈ ds, (d != '.') = true := fun d hd => ne_point_of_isDigit (hds d hd)
    have hstops : Stops (· != '.') ('.' :: fs) := stops_cons.2 (by decide)
    have hwhole : wholeText (ds ++ '.' :: fs) = ds := takeWhile_append hrun hstops
    have hfraction : fractionText (ds ++ '.' :: fs) = fs := by
      rw [fractionText, dropWhile_append hrun hstops, List.drop_one, List.tail_cons]
    rw [mantissaDigits, hwhole, hfraction, digitsValue_append]
    refine ⟨fun d hd => (List.mem_append.1 hd).elim (hds d) (hfs d), by simp, ?_⟩
    push_cast
    rw [add_div, mul_div_cancel_left₀ _ (by positivity)]
    rfl

/-- The sign and the digits that an exponent is read from. -/
theorem ExponentValue.reads (h : ExponentValue written exponent) :
    written = [] ∧ exponent = 0 ∨ ∃ letter digits, written = letter :: digits ∧ afterSign digits ≠ [] ∧
      (afterSign digits).all Char.isDigit = true ∧
      exponent = if sign digits = ['-'] then -(digitsValue (afterSign digits) : ℤ)
        else digitsValue (afterSign digits) := by
  cases h with
  | absent => exact .inl ⟨rfl, rfl⟩
  | @positive letter mark ds hletter hmark hne hds =>
    have hsplit : sign (mark ++ ds) ≠ ['-'] ∧ afterSign (mark ++ ds) = ds := by
      rcases hmark with rfl | rfl
      · obtain ⟨d, ds, rfl⟩ := List.exists_cons_of_ne_nil hne
        simp [sign, afterSign, not_isSign_of_isDigit (hds d List.mem_cons_self)]
      · exact ⟨by simp [sign, isSign], rfl⟩
    refine .inr ⟨letter, _, rfl, ?_⟩
    rw [if_neg hsplit.1, hsplit.2]
    exact ⟨hne, List.all_eq_true.2 hds, rfl⟩
  | negative hletter hne hds => exact .inr ⟨_, _, rfl, hne, List.all_eq_true.2 hds, rfl⟩

theorem ExponentValue.unique {other : ℤ} (h : ExponentValue written exponent) (hother : ExponentValue written other) :
    other = exponent := by
  rcases h.reads with ⟨rfl, rfl⟩ | ⟨letter, digits, rfl, -, -, rfl⟩
  · exact hother.reads.elim And.right fun ⟨_, _, habsurd, _⟩ => by simp at habsurd
  · rcases hother.reads with ⟨habsurd, -⟩ | ⟨_, _, hwritten, -, -, rfl⟩
    · simp at habsurd
    · rw [(List.cons.inj hwritten).2]

theorem ExponentValue.exponentValue?_eq (h : ExponentValue (text.dropWhile (!isMarker ·)) exponent) :
    exponentValue? text = if -(intBound : ℤ) ≤ exponent ∧ exponent < intBound then some exponent else none := by
  rcases h.reads with ⟨hnil, rfl⟩ | ⟨letter, digits, hcons, hne, hall, rfl⟩
  · rw [exponentValue?, hnil, if_pos (by decide)]
  · rw [exponentValue?, hcons]
    simp only [ne_eq, hne, not_false_eq_true, hall, true_and]

theorem Denotes.parts (h : Denotes text value exponent) :
    ∃ decimal, MantissaValue (mantissaText text) decimal ∧
      ExponentValue (text.dropWhile (!isMarker ·)) exponent ∧ value = decimal * 10 ^ exponent := by
  cases h with
  | intro hmantissa hexponent =>
    obtain ⟨hbefore, hbehind⟩ := mantissaText_append hmantissa hexponent
    exact ⟨_, hbefore.symm ▸ hmantissa, hbehind.symm ▸ hexponent, rfl⟩

theorem Denotes.unique {otherValue : ℚ} {otherExponent : ℤ} (h : Denotes text value exponent)
    (hother : Denotes text otherValue otherExponent) : otherValue = value ∧ otherExponent = exponent := by
  obtain ⟨decimal, hmantissa, hexponent, rfl⟩ := h.parts
  obtain ⟨otherDecimal, hotherMantissa, hotherExponent, rfl⟩ := hother.parts
  obtain rfl := hexponent.unique hotherExponent
  rw [hmantissa.eq_div.2.2, hotherMantissa.eq_div.2.2]
  exact ⟨rfl, rfl⟩

theorem Denotes.eq_mul (h : Denotes text value exponent) :
    value = digitsValue (mantissaDigits (mantissaText text)) *
      10 ^ (exponent - (fractionText (mantissaText text)).length) := by
  obtain ⟨decimal, hmantissa, -, rfl⟩ := h.parts
  rw [hmantissa.eq_div.2.2, div_mul_eq_mul_div, mul_div_assoc, ← zpow_natCast, ← zpow_sub₀ (by norm_num)]

theorem Denotes.nonneg (h : Denotes text value exponent) : 0 ≤ value := by
  rw [h.eq_mul]
  positivity

end SqlShell.Numeral
