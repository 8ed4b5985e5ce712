import SqlShell.Numeral.Form
import SqlShell.Proofs.Text.Runs
/-!
# Which texts are numbers

`split?` cuts a number off a text step by step. `split?_eq_some_iff` says what it cuts off: a mantissa and an exponent
of the forms below, in front of a text that does not go on with a digit, a point or an exponent letter. Whether a
number is read thus depends on the number and on the one character behind it.
-/

namespace SqlShell.Numeral

open Text

/-- Digits, or digits around a point. -/
inductive IsMantissa : List Char → Prop
  | whole {ds : List Char} (hne : ds ≠ []) (hds : ∀ d ∈ ds, d.isDigit = true) : IsMantissa ds
  | point {ds fs : List Char} (hds : ∀ d ∈ ds, d.isDigit = true) (hfs : ∀ d ∈ fs, d.isDigit = true)
      (hne : ¬(ds = [] ∧ fs = [])) : IsMantissa (ds ++ '.' :: fs)

/-- Nothing, or digits behind an exponent letter and perhaps a sign. -/
inductive IsExponent : List Char → Prop
  | absent : IsExponent []
  | written {letter : Char} {mark ds : List Char} (hletter : isMarker letter = true)
      (hmark : mark = [] ∨ ∃ c, isSign c = true ∧ mark = [c]) (hne : ds ≠ [])
      (hds : ∀ d ∈ ds, d.isDigit = true) : IsExponent (letter :: (mark ++ ds))

/-- A mantissa and an exponent. -/
def IsNumber (text : List Char) : Prop :=
  ∃ mantissa exponent, IsMantissa mantissa ∧ IsExponent exponent ∧ text = mantissa ++ exponent

/-- The characters that a number may not be followed by. -/
def isTail (c : Char) : Bool :=
  c.isDigit || c == '.' || isMarker c

variable {text rest : List Char}

theorem stops_isDigit_of_stops_isTail (h : Stops isTail rest) : Stops Char.isDigit rest := by
  intro c hc
  have := h c hc
  simp only [isTail, Bool.or_eq_false_iff] at this
  exact this.1.1

theorem not_point_of_stops_isTail (h : Stops isTail rest) : ∀ c ∈ rest.head?, c ≠ '.' := by
  rintro c hc rfl
  have := h '.' hc
  revert this
  decide

theorem stops_isMarker_of_stops_isTail (h : Stops isTail rest) : Stops isMarker rest := by
  intro c hc
  have := h c hc
  simp only [isTail, Bool.or_eq_false_iff] at this
  exact this.2

theorem not_isDigit_of_isMarker {c : Char} (h : isMarker c = true) : c.isDigit = false ∧ c ≠ '.' := by
  simp only [isMarker, Bool.or_eq_true, beq_iff_eq] at h
  rcases h with rfl | rfl <;> decide

theorem not_isMarker_of_isDigit {c : Char} (h : c.isDigit = true) : isMarker c = false := by
  cases hmarker : isMarker c with
  | false => rfl
  | true => simp [not_isDigit_of_isMarker hmarker] at h

theorem not_isDigit_of_isSign {c : Char} (h : isSign c = true) : c.isDigit = false := by
  simp only [isSign, Bool.or_eq_true, beq_iff_eq] at h
  rcases h with rfl | rfl <;> decide

theorem not_isSign_of_isDigit {c : Char} (h : c.isDigit = true) : isSign c = false := by
  cases hsign : isSign c with
  | false => rfl
  | true => simp [not_isDigit_of_isSign hsign] at h

/-- A number starts with a digit or a point. -/
theorem IsNumber.eq_cons (h : IsNumber text) :
    ∃ first tail, text = first :: tail ∧ (first.isDigit = true ∨ first = '.') := by
  obtain ⟨mantissa, exponent, hmantissa, -, rfl⟩ := h
  cases hmantissa with
  | whole hne hds =>
    obtain ⟨d, ds, rfl⟩ := List.exists_cons_of_ne_nil hne
    exact ⟨d, ds ++ exponent, rfl, .inl (hds d List.mem_cons_self)⟩
  | @point ds fs hds =>
    cases ds with
    | nil => exact ⟨'.', fs ++ exponent, rfl, .inr rfl⟩
    | cons d ds => exact ⟨d, ds ++ '.' :: fs ++ exponent, rfl, .inl (hds d List.mem_cons_self)⟩

/-- The characters of numbers. -/
theorem IsNumber.forall_mem (h : IsNumber text) : ∀ c ∈ text, isTail c = true ∨ isSign c = true := by
  have hdigit {c : Char} (hc : c.isDigit = true) : isTail c = true := by simp [isTail, hc]
  obtain ⟨mantissa, exponent, hmantissa, hexponent, rfl⟩ := h
  intro c hc
  rcases List.mem_append.1 hc with hc | hc
  · cases hmantissa with
    | whole hne hds => exact .inl (hdigit (hds c hc))
    | point hds hfs hne =>
      rcases List.mem_append.1 hc with hc | hc
      · exact .inl (hdigit (hds c hc))
      · rcases List.mem_cons.1 hc with rfl | hc
        · exact .inl (by decide)
        · exact .inl (hdigit (hfs c hc))
  · cases hexponent with
    | absent => simp at hc
    | written hletter hmark hne hds =>
      rcases List.mem_cons.1 hc with rfl | hc
      · exact .inl (by simp [isTail, hletter])
      · rcases List.mem_append.1 hc with hc | hc
        · rcases hmark with rfl | ⟨d, hd, rfl⟩
          · simp at hc
          · exact .inr (List.mem_singleton.1 hc ▸ hd)
        · exact .inl (hdigit (hds c hc))

/-! ### Mantissas -/

theorem isMantissa_of_mantissa? {mantissa : List Char} (h : mantissa? text = some (mantissa, rest)) :
    IsMantissa mantissa ∧ Stops Char.isDigit rest := by
  have hdigits (text : List Char) : ∀ d ∈ digits text, d.isDigit = true := fun d hd => of_mem_takeWhile hd
  rw [mantissa?] at h
  split at h
  · next tail htail =>
    split at h
    · simp at h
    · next hne =>
      obtain ⟨rfl, rfl⟩ := Prod.mk.inj (Option.some.inj h)
      exact ⟨.point (hdigits text) (hdigits tail) hne, stops_dropWhile _ _⟩
  · split at h
    · simp at h
    · next hne =>
      obtain ⟨rfl, rfl⟩ := Prod.mk.inj (Option.some.inj h)
      exact ⟨.whole hne (hdigits text), stops_dropWhile _ _⟩

theorem mantissa?_append {mantissa : List Char} (h : IsMantissa mantissa) (hrest : Stops Char.isDigit rest)
    (hpoint : ∀ c ∈ rest.head?, c ≠ '.') : mantissa? (mantissa ++ rest) = some (mantissa, rest) := by
  cases h with
  | whole hne hds =>
    have hdigits : digits (mantissa ++ rest) = mantissa := takeWhile_append hds hrest
    have hafter : afterDigits (mantissa ++ rest) = rest := dropWhile_append hds hrest
    rw [mantissa?, hafter, hdigits]
    split
    · simp at hpoint
    · rw [if_neg hne]
  | @point ds fs hds hfs hne =>
    have hstop : Stops Char.isDigit ('.' :: (fs ++ rest)) := stops_cons.2 (by decide)
    have hdigits : digits (ds ++ '.' :: (fs ++ rest)) = ds := takeWhile_append hds hstop
    have hafter : afterDigits (ds ++ '.' :: (fs ++ rest)) = '.' :: (fs ++ rest) := dropWhile_append hds hstop
    have hfraction : digits (fs ++ rest) = fs := takeWhile_append hfs hrest
    have hend : afterDigits (fs ++ rest) = rest := dropWhile_append hfs hrest
    rw [List.append_assoc, List.cons_append, mantissa?, hafter, hdigits]
    simp only [hfraction, hend, if_neg hne]

/-! ### Exponents -/

theorem isExponent_of_exponent? {exponent : List Char} (h : exponent? text = some (exponent, rest)) :
    IsExponent exponent ∧ (exponent = [] ∧ Stops isMarker rest ∨ exponent ≠ [] ∧ Stops Char.isDigit rest) := by
  cases text with
  | nil =>
    obtain ⟨rfl, rfl⟩ := Prod.mk.inj (Option.some.inj h)
    exact ⟨.absent, .inl ⟨rfl, stops_nil⟩⟩
  | cons c tail =>
    rw [exponent?] at h
    split at h
    · next hmarker =>
      split at h
      · simp at h
      · next hne =>
        obtain ⟨rfl, rfl⟩ := Prod.mk.inj (Option.some.inj h)
        have hmark : sign tail = [] ∨ ∃ c, isSign c = true ∧ sign tail = [c] := by
          cases tail with
          | nil => exact .inl rfl
          | cons c tail => by_cases hsign : isSign c = true <;> simp [sign, hsign]
        exact ⟨.written hmarker hmark hne fun d hd => of_mem_takeWhile hd, .inr ⟨by simp, stops_dropWhile _ _⟩⟩
    · next hmarker =>
      obtain ⟨rfl, rfl⟩ := Prod.mk.inj (Option.some.inj h)
      exact ⟨.absent, .inl ⟨rfl, stops_cons.2 (by simpa using hmarker)⟩⟩

theorem exponent?_append {exponent : List Char} (h : IsExponent exponent) (hrest : Stops isTail rest) :
    exponent? (exponent ++ rest) = some (exponent, rest) := by
  cases h with
  | absent =>
    cases rest with
    | nil => rfl
    | cons c rest =>
      have hmarker := stops_cons.1 (stops_isMarker_of_stops_isTail hrest)
      simp [exponent?, hmarker]
  | @written letter mark ds hletter hmark hne hds =>
    have hstop := stops_isDigit_of_stops_isTail hrest
    have hsplit : sign (mark ++ ds ++ rest) = mark ∧ afterSign (mark ++ ds ++ rest) = ds ++ rest := by
      rcases hmark with rfl | ⟨c, hc, rfl⟩
      · obtain ⟨d, ds, rfl⟩ := List.exists_cons_of_ne_nil hne
        simp [sign, afterSign, not_isSign_of_isDigit (hds d (by simp))]
      · simp [sign, afterSign, hc]
    have hdigits : digits (ds ++ rest) = ds := takeWhile_append hds hstop
    have hafter : afterDigits (ds ++ rest) = rest := dropWhile_append hds hstop
    rw [List.cons_append, exponent?, if_pos hletter, hsplit.1, hsplit.2, hdigits, hafter, if_neg hne]

/-! ### Numbers -/

/-- A number is cut off a text if it stands at its start and the text does not go on like a number. -/
theorem split?_eq_some_iff {numeral : List Char} :
    split? text = some (numeral, rest) ↔ IsNumber numeral ∧ text = numeral ++ rest ∧ Stops isTail rest := by
  constructor
  · intro h
    have htext := (split?_tiles h).1
    simp only [split?, Option.bind_eq_bind, Option.bind_eq_some_iff] at h
    obtain ⟨⟨mantissa, middle⟩, hmantissa, ⟨exponent, after⟩, hexponent, hrest⟩ := h
    split at hrest
    · simp at hrest
    · next hcontinues =>
      obtain ⟨rfl, rfl⟩ := Prod.mk.inj (Option.some.inj hrest)
      obtain ⟨hm, hmiddle⟩ := isMantissa_of_mantissa? hmantissa
      obtain ⟨he, hafter⟩ := isExponent_of_exponent? hexponent
      refine ⟨⟨mantissa, exponent, hm, he, rfl⟩, htext.symm, ?_⟩
      have hdigit : Stops Char.isDigit after := by
        rcases hafter with ⟨rfl, -⟩ | ⟨-, hafter⟩
        · obtain rfl : after = middle := by simpa using exponent?_tiles hexponent
          exact hmiddle
        · exact hafter
      cases after with
      | nil => exact stops_nil
      | cons c after =>
        have hc : c.isDigit = false := stops_cons.1 hdigit
        simp only [continues, Bool.or_eq_true, not_or, Bool.not_eq_true] at hcontinues
        exact stops_cons.2 (by simp [isTail, hc, hcontinues.1, hcontinues.2])
  · rintro ⟨⟨mantissa, exponent, hm, he, rfl⟩, rfl, hrest⟩
    have hexponent := exponent?_append he hrest
    have hmantissa : mantissa? (mantissa ++ (exponent ++ rest)) = some (mantissa, exponent ++ rest) := by
      refine mantissa?_append hm ?_ ?_
      · cases he with
        | absent => exact stops_isDigit_of_stops_isTail hrest
        | written hletter => exact stops_cons.2 (not_isDigit_of_isMarker hletter).1
      · cases he with
        | absent => exact not_point_of_stops_isTail hrest
        | written hletter => simpa using (not_isDigit_of_isMarker hletter).2
    have hcontinues : continues rest = false := by
      cases rest with
      | nil => rfl
      | cons c rest =>
        have hpoint := not_point_of_stops_isTail hrest c rfl
        have hmarker := stops_isMarker_of_stops_isTail hrest c rfl
        simp [continues, hpoint, hmarker]
    rw [List.append_assoc, split?]
    simp only [Option.bind_eq_bind, hmantissa, Option.bind_some, hexponent, hcontinues, Bool.false_eq_true, if_false]

end SqlShell.Numeral
