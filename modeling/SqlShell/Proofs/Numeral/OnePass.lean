import SqlShell.Proofs.Numeral.Written
import SqlShell.Token.Lexing
/-!
# Numbers in one pass

`split?` cuts off a mantissa and then an exponent. `scan?` goes over the characters once, with three flags for what it
has met, and where it meets a character that the number has no room for it gives up the whole number. The two are the
same function (`scan?_eq_split?`): a pass over digits only sets flags, so it is enough to compare them at the first
character behind the digits of each part. `Place.reads_standing_number` says which text is read as a number at a place of a
source, and that none is read where there is no such text.
-/

namespace SqlShell

namespace Numeral

open Text

/-! ### The pass -/

/-- What has been met of a number: a digit of its mantissa, its point, its exponent letter. -/
structure Seen where
  digit : Bool
  point : Bool
  exponent : Bool

namespace Seen

/-- In front of a number. -/
def nothing : Seen :=
  ⟨false, false, false⟩

/-- Behind one more digit, which counts for the mantissa only in front of the exponent letter. -/
def afterDigit (seen : Seen) : Seen :=
  { seen with digit := seen.digit || !seen.exponent }

/-- Behind a run of digits. -/
def afterDigits (seen : Seen) (run : List Char) : Seen :=
  if run = [] then seen else seen.afterDigit

theorem afterDigit_afterDigit (seen : Seen) : seen.afterDigit.afterDigit = seen.afterDigit := by
  simp [afterDigit]

theorem afterDigits_of_exponent {seen : Seen} (h : seen.exponent = true) (run : List Char) :
    seen.afterDigits run = seen := by
  obtain ⟨digit, point, exponent⟩ := seen
  obtain rfl : exponent = true := h
  simp [afterDigits, afterDigit]

theorem afterDigits_of_mantissa {seen : Seen} (h : seen.exponent = false) (run : List Char) :
    seen.afterDigits run = { seen with digit := seen.digit || !run.isEmpty } := by
  obtain ⟨digit, point, exponent⟩ := seen
  obtain rfl : exponent = false := h
  cases run <;> simp [afterDigits, afterDigit]

end Seen

/-- The characters in front of what was cut off. -/
def prepend (run : List Char) (cut : List Char × List Char) : List Char × List Char :=
  (run ++ cut.1, cut.2)

theorem map_prepend_nil (cut : Option (List Char × List Char)) : cut.map (prepend []) = cut :=
  Option.map_id_apply

theorem map_prepend_append (run more : List Char) (cut : Option (List Char × List Char)) :
    cut.map (prepend (run ++ more)) = (cut.map (prepend more)).map (prepend run) := by
  cases cut <;> simp [prepend]

theorem length_afterSign_le (text : List Char) : (afterSign text).length ≤ text.length := by
  rw [← congrArg List.length (sign_append_afterSign text), List.length_append]
  omega

/-- The rest of the number that a text goes on with, and the text after it. -/
def scan? (seen : Seen) : List Char → Option (List Char × List Char)
  | [] => if seen.digit then some ([], []) else none
  | c :: rest =>
    if c.isDigit then (scan? seen.afterDigit rest).map (prepend [c])
    else if c = '.' then
      if seen.point || seen.exponent then none else (scan? { seen with point := true } rest).map (prepend [c])
    else if isMarker c then
      if seen.exponent || !seen.digit then none
      -- The letter needs a digit right behind it or behind a sign.
      else if !(afterSign rest).head?.any Char.isDigit then none
      else (scan? { seen with exponent := true } (afterSign rest)).map (prepend (c :: sign rest))
    else if seen.digit then some ([], c :: rest) else none
termination_by text => text.length
decreasing_by
  · exact Nat.lt_succ_self _
  · exact Nat.lt_succ_self _
  · exact Nat.lt_succ_of_le (length_afterSign_le rest)

variable {seen : Seen} {c : Char} {text rest : List Char}

/-! ### Digits -/

theorem digits_cons_of_isDigit (text : List Char) (h : c.isDigit = true) :
    digits (c :: text) = c :: digits text ∧ afterDigits (c :: text) = afterDigits text :=
  ⟨List.takeWhile_cons_of_pos h, List.dropWhile_cons_of_pos h⟩

theorem digits_of_stops (h : Stops Char.isDigit text) : digits text = [] ∧ afterDigits text = text :=
  have hnone : ∀ c ∈ [], Char.isDigit c = true := List.forall_mem_nil _
  ⟨takeWhile_append hnone h, dropWhile_append hnone h⟩

theorem scan?_digits_of_stops (seen : Seen) (h : Stops Char.isDigit text) :
    scan? seen text = (scan? (seen.afterDigits (digits text)) (afterDigits text)).map (prepend (digits text)) := by
  rw [(digits_of_stops h).1, (digits_of_stops h).2, Seen.afterDigits, if_pos rfl, map_prepend_nil]

/-- A pass over digits keeps them and sets flags. -/
theorem scan?_digits (seen : Seen) (text : List Char) :
    scan? seen text = (scan? (seen.afterDigits (digits text)) (afterDigits text)).map (prepend (digits text)) := by
  induction text generalizing seen with
  | nil => exact scan?_digits_of_stops seen stops_nil
  | cons c rest ih =>
    cases hc : c.isDigit with
    | false => exact scan?_digits_of_stops seen (stops_cons.2 hc)
    | true =>
      obtain ⟨hdigits, hafter⟩ := digits_cons_of_isDigit rest hc
      have hflags : seen.afterDigit.afterDigits (digits rest) = seen.afterDigits (c :: digits rest) := by
        rw [Seen.afterDigits, Seen.afterDigits, if_neg (List.cons_ne_nil _ _), Seen.afterDigit_afterDigit, ite_self]
      rw [scan?, if_pos hc, ih, hflags, hdigits, hafter]
      exact (map_prepend_append [c] (digits rest) _).symm

/-! ### Behind the digits of a part -/

/-- What follows the mantissa of a number: an exponent, and a text that does not go on like a number. -/
def afterMantissa? (text : List Char) : Option (List Char × List Char) :=
  (exponent? text).bind fun cut => if continues cut.2 then none else some cut

theorem split?_eq (text : List Char) :
    split? text = (mantissa? text).bind fun cut => (afterMantissa? cut.2).map (prepend cut.1) := by
  rw [split?, Option.bind_eq_bind]
  refine Option.bind_congr fun cut _ => ?_
  rw [afterMantissa?, Option.map_bind]
  refine Option.bind_congr fun exponent _ => ?_
  cases hcontinues : continues exponent.2 <;> simp [hcontinues, prepend]

/-- Behind the digits of its exponent the number ends. -/
theorem scan?_of_exponent (hdigit : seen.digit = true) (hexponent : seen.exponent = true)
    (hstops : Stops Char.isDigit text) : scan? seen text = if continues text then none else some ([], text) := by
  cases text with
  | nil => simp [scan?, continues, hdigit]
  | cons c rest =>
    have hc : c.isDigit = false := stops_cons.1 hstops
    by_cases hpoint : c = '.'
    · simp [scan?, continues, hpoint, hexponent]
    · cases hmarker : isMarker c <;> simp [scan?, continues, hc, hpoint, hmarker, hexponent, hdigit]

/-- The letter of an exponent and all that follows it. -/
theorem scan?_of_marker (hdigit : seen.digit = true) (hexponent : seen.exponent = false) (hc : isMarker c = true) :
    scan? seen (c :: rest) = afterMantissa? (c :: rest) := by
  obtain ⟨hnotDigit, hpoint⟩ := not_isDigit_of_isMarker hc
  have hahead : (!(afterSign rest).head?.any Char.isDigit) = true ↔ digits (afterSign rest) = [] := by
    cases afterSign rest with
    | nil => simp [digits]
    | cons d tail => cases hd : d.isDigit <;> simp [digits, hd]
  rw [scan?, afterMantissa?, exponent?, if_neg (by simp [hnotDigit]), if_neg hpoint, if_pos hc, if_pos hc,
    if_neg (by simp [hdigit, hexponent])]
  by_cases hnone : digits (afterSign rest) = []
  · rw [if_pos (hahead.2 hnone), if_pos hnone, Option.bind_none]
  · have hend : scan? { seen with exponent := true } (afterDigits (afterSign rest)) =
        if continues (afterDigits (afterSign rest)) then none else some ([], afterDigits (afterSign rest)) :=
      scan?_of_exponent hdigit rfl (stops_dropWhile _ _)
    rw [if_neg (mt hahead.1 hnone), if_neg hnone, scan?_digits, Seen.afterDigits_of_exponent rfl, hend, Option.bind_some]
    cases continues (afterDigits (afterSign rest)) <;> simp [prepend]

/-- Behind a mantissa the number goes on with an exponent or ends. -/
theorem scan?_of_mantissa (hdigit : seen.digit = true) (hexponent : seen.exponent = false)
    (hstops : Stops Char.isDigit text) (hpoint : seen.point = true ∨ ∀ c ∈ text.head?, c ≠ '.') :
    scan? seen text = afterMantissa? text := by
  cases text with
  | nil => simp [scan?, afterMantissa?, exponent?, continues, hdigit]
  | cons c rest =>
    have hc : c.isDigit = false := stops_cons.1 hstops
    cases hmarker : isMarker c with
    | true => exact scan?_of_marker hdigit hexponent hmarker
    | false =>
      by_cases hdot : c = '.'
      · have hseen : seen.point = true := hpoint.resolve_right fun hne => hne c rfl hdot
        subst hdot
        simp [scan?, afterMantissa?, exponent?, continues, hc, hseen, hmarker]
      · simp [scan?, afterMantissa?, exponent?, continues, hc, hdot, hmarker, hdigit]

/-- Where there is no mantissa there is no number. -/
theorem scan?_of_no_digit (hdigit : seen.digit = false) (hstops : Stops Char.isDigit text)
    (hpoint : seen.point = true ∨ ∀ c ∈ text.head?, c ≠ '.') : scan? seen text = none := by
  cases text with
  | nil => simp [scan?, hdigit]
  | cons c rest =>
    have hc : c.isDigit = false := stops_cons.1 hstops
    by_cases hdot : c = '.'
    · have hseen : seen.point = true := hpoint.resolve_right fun hne => hne c rfl hdot
      simp [scan?, hdot, hseen]
    · cases hmarker : isMarker c <;> simp [scan?, hc, hdot, hmarker, hdigit]

/-! ### Whole numbers -/

/-- The digits that end a mantissa, and what follows it. -/
theorem scan?_of_last_digits (hexponent : seen.exponent = false)
    (hpoint : seen.point = true ∨ ∀ c ∈ (afterDigits text).head?, c ≠ '.') :
    scan? seen text =
      if seen.digit = false ∧ digits text = [] then none
      else (afterMantissa? (afterDigits text)).map (prepend (digits text)) := by
  have hstops : Stops Char.isDigit (afterDigits text) := stops_dropWhile _ _
  rw [scan?_digits, Seen.afterDigits_of_mantissa hexponent]
  generalize hbehind : ({ seen with digit := seen.digit || !(digits text).isEmpty } : Seen) = behind
  have hdigit : behind.digit = (seen.digit || !(digits text).isEmpty) := by rw [← hbehind]
  have hpoint' : behind.point = true ∨ ∀ c ∈ (afterDigits text).head?, c ≠ '.' := by rw [← hbehind]; exact hpoint
  by_cases hnone : seen.digit = false ∧ digits text = []
  · rw [if_pos hnone, scan?_of_no_digit (by simp [hdigit, hnone]) hstops hpoint', Option.map_none]
  · have hseen : behind.digit = true := by
      cases hseen : seen.digit with
      | true => simp [hdigit, hseen]
      | false => simpa [hdigit, hseen] using hnone
    rw [if_neg hnone, scan?_of_mantissa hseen (by rw [← hbehind]; exact hexponent) hstops hpoint']

/-- The number that one pass reads is the one that is cut off in parts. -/
theorem scan?_eq_split? (text : List Char) : scan? .nothing text = split? text := by
  rw [split?_eq, mantissa?]
  split
  · next tail htail =>
    -- The digits end at a point: behind it come the digits that end the mantissa.
    have hpoint : Char.isDigit '.' = false := by decide
    rw [scan?_digits, Seen.afterDigits_of_mantissa rfl, htail, scan?, if_neg (by simp [hpoint]), if_pos rfl,
      if_neg (by simp [Seen.nothing]), scan?_of_last_digits rfl (.inl rfl)]
    by_cases hnone : digits text = [] ∧ digits tail = []
    · simp [hnone, Seen.nothing]
    · have hflag : ¬((Seen.nothing.digit || !(digits text).isEmpty) = false ∧ digits tail = []) := by
        simpa [Seen.nothing] using hnone
      rw [if_neg hflag, if_neg hnone, Option.bind_some, ← map_prepend_append, ← map_prepend_append, List.append_assoc,
        List.singleton_append]
  · next hpoint =>
    have hhead : ∀ c ∈ (afterDigits text).head?, c ≠ '.' := by
      intro c hc hdot
      obtain ⟨tail, htail⟩ := List.head?_eq_some_iff.1 hc
      exact hpoint tail (hdot ▸ htail)
    rw [scan?_of_last_digits rfl (.inr hhead)]
    by_cases hnone : digits text = [] <;> simp [hnone, Seen.nothing]

/-! ### Numbers at a place of a source -/

/-- The text is a number, it stands in the source from the position on, and the source does not go on with a character
that a number may not be followed by. -/
structure StandsAt (source : List Char) (position : Nat) (text : List Char) : Prop where
  isNumber : IsNumber text
  stands : text <+: source.drop position
  ends : ∀ c ∈ source[position + text.length]?, c.isDigit = false ∧ c ≠ '.' ∧ c ≠ 'e' ∧ c ≠ 'E'

theorem isTail_eq_false_iff : isTail c = false ↔ c.isDigit = false ∧ c ≠ '.' ∧ c ≠ 'e' ∧ c ≠ 'E' := by
  simp [isTail, isMarker, and_assoc]

theorem standsAt_iff {source : List Char} {position : Nat} :
    StandsAt source position text ↔ ∃ rest, split? (source.drop position) = some (text, rest) := by
  have hbehind {rest : List Char} (h : source.drop position = text ++ rest) :
      source[position + text.length]? = rest.head? := by
    rw [← List.getElem?_drop, h, List.getElem?_append_right (Nat.le_refl _), Nat.sub_self, List.head?_eq_getElem?]
  constructor
  · rintro ⟨hnumber, ⟨rest, hrest⟩, hends⟩
    rw [hbehind hrest.symm] at hends
    exact ⟨rest, split?_eq_some_iff.2 ⟨hnumber, hrest.symm, fun c hc => isTail_eq_false_iff.2 (hends c hc)⟩⟩
  · rintro ⟨rest, hsplit⟩
    obtain ⟨hnumber, htext, hstops⟩ := split?_eq_some_iff.1 hsplit
    refine ⟨hnumber, ⟨rest, htext.symm⟩, fun c hc => ?_⟩
    rw [hbehind htext] at hc
    exact isTail_eq_false_iff.1 (hstops c hc)

/-- At most one number stands at a position. -/
theorem StandsAt.unique {source other : List Char} {position : Nat} (h : StandsAt source position text)
    (hother : StandsAt source position other) : other = text := by
  obtain ⟨rest, hsplit⟩ := standsAt_iff.1 h
  obtain ⟨more, hmore⟩ := standsAt_iff.1 hother
  exact (Prod.mk.inj (Option.some.inj (hmore.symm.trans hsplit))).1

end Numeral

/-- A number is read at a place if and only if one stands there, and it is then the only one. One pass reads the same
number. -/
theorem Place.reads_standing_number (source : List Char) (place : Place) :
    Numeral.scan? .nothing (source.drop place.offset) = Numeral.split? (source.drop place.offset) ∧
      match place.read? Lexeme.numeral? source with
      | some (token, next) => ∃ text, (∀ other, Numeral.StandsAt source place.offset other ↔ other = text) ∧
          token = ⟨.numeral (String.ofList text), place.location⟩ ∧
          next = ⟨place.offset + text.length, place.location.after text⟩
      | none => ∀ text, ¬Numeral.StandsAt source place.offset text := by
  refine ⟨Numeral.scan?_eq_split? _, ?_⟩
  rw [read?, Lexeme.numeral?]
  cases hsplit : Numeral.split? (source.drop place.offset) with
  | none =>
    intro text hstands
    obtain ⟨rest, hrest⟩ := Numeral.standsAt_iff.1 hstands
    exact absurd (hsplit.symm.trans hrest) (Option.some_ne_none _).symm
  | some cut =>
    obtain ⟨text, rest⟩ := cut
    have hstands : Numeral.StandsAt source place.offset text := Numeral.standsAt_iff.2 ⟨rest, hsplit⟩
    refine ⟨text, fun other => ⟨hstands.unique, ?_⟩, rfl, rfl⟩
    rintro rfl
    exact hstands

/-- A point or a letter that a number has no room for takes the whole number away. -/
example : ["1.5e+3)", "1.2.3", "1e5.2", "1e", "1e+", "."].map (fun text => Numeral.split? text.toList) =
    [some ("1.5e+3".toList, [')']), none, none, none, none, none] := by
  decide

end SqlShell
