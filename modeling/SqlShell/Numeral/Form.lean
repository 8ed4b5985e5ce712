/-!
# The written form of numbers

A number is written as digits with an optional point among or around them, and an optional exponent behind the
letter e. The longest candidate is taken whole: where a point or an exponent letter follows that the form has
no room for, nothing is read at all rather than a shorter number.
-/

namespace SqlShell.Numeral

/-- The letters that announce an exponent. -/
def isMarker (c : Char) : Bool :=
  c == 'e' || c == 'E'

/-- The signs that an exponent may carry. -/
def isSign (c : Char) : Bool :=
  c == '+' || c == '-'

/-- The digits at the start of a text. -/
def digits (text : List Char) : List Char :=
  text.takeWhile Char.isDigit

/-- What follows the digits at the start of a text. -/
def afterDigits (text : List Char) : List Char :=
  text.dropWhile Char.isDigit

/-- Digits with at most one point, and the text after them. There is at least one digit. -/
def mantissa? (text : List Char) : Option (List Char × List Char) :=
  match afterDigits text with
  | '.' :: rest =>
    if digits text = [] ∧ digits rest = [] then none
    else some (digits text ++ '.' :: digits rest, afterDigits rest)
  | rest => if digits text = [] then none else some (digits text, rest)

/-- The sign at the start of a text, if there is one. -/
def sign : List Char → List Char
  | c :: _ => if isSign c then [c] else []
  | [] => []

/-- What follows the sign at the start of a text. -/
def afterSign : List Char → List Char
  | c :: rest => if isSign c then rest else c :: rest
  | [] => []

/-- The exponent with its letter, possibly none, and the text after it. A letter must be followed by an
exponent. -/
def exponent? : List Char → Option (List Char × List Char)
  | c :: rest =>
    if isMarker c then
      if digits (afterSign rest) = [] then none
      else some (c :: (sign rest ++ digits (afterSign rest)), afterDigits (afterSign rest))
    else some ([], c :: rest)
  | [] => some ([], [])

/-- The text goes on with a character that would have to belong to the number. -/
def continues : List Char → Bool
  | c :: _ => c == '.' || isMarker c
  | [] => false

/-- The number at the start of a text and the text after it. -/
def split? (text : List Char) : Option (List Char × List Char) := do
  let (mantissa, rest) ← mantissa? text
  let (exponent, rest) ← exponent? rest
  if continues rest then none else some (mantissa ++ exponent, rest)

theorem digits_append_afterDigits (text : List Char) : digits text ++ afterDigits text = text :=
  List.takeWhile_append_dropWhile

theorem sign_append_afterSign (text : List Char) : sign text ++ afterSign text = text := by
  match text with
  | [] => rfl
  | c :: rest => by_cases h : isSign c = true <;> simp [sign, afterSign, h]

theorem mantissa?_tiles {text mantissa rest : List Char} (h : mantissa? text = some (mantissa, rest)) :
    mantissa ++ rest = text ∧ mantissa ≠ [] := by
  have htext := digits_append_afterDigits text
  rw [mantissa?] at h
  split at h
  · next tail htail =>
    rw [htail] at htext
    split at h
    · simp at h
    · obtain ⟨rfl, rfl⟩ := Prod.mk.inj (Option.some.inj h)
      refine ⟨?_, by simp⟩
      rw [List.append_assoc, List.cons_append, digits_append_afterDigits, htext]
  · split at h
    · simp at h
    · next hdigits =>
      obtain ⟨rfl, rfl⟩ := Prod.mk.inj (Option.some.inj h)
      exact ⟨htext, hdigits⟩

theorem exponent?_tiles {text exponent rest : List Char} (h : exponent? text = some (exponent, rest)) :
    exponent ++ rest = text := by
  match text with
  | [] =>
    obtain ⟨rfl, rfl⟩ := Prod.mk.inj (Option.some.inj h)
    rfl
  | c :: tail =>
    rw [exponent?] at h
    split at h
    · split at h
      · simp at h
      · obtain ⟨rfl, rfl⟩ := Prod.mk.inj (Option.some.inj h)
        rw [List.cons_append, List.append_assoc, digits_append_afterDigits, sign_append_afterSign]
    · obtain ⟨rfl, rfl⟩ := Prod.mk.inj (Option.some.inj h)
      rfl

/-- A number is a nonempty piece of the text it was read from. -/
theorem split?_tiles {text numeral rest : List Char} (h : split? text = some (numeral, rest)) :
    numeral ++ rest = text ∧ numeral ≠ [] := by
  simp only [split?, Option.bind_eq_bind, Option.bind_eq_some_iff] at h
  obtain ⟨⟨mantissa, middle⟩, hmantissa, ⟨exponent, after⟩, hexponent, hrest⟩ := h
  split at hrest
  · simp at hrest
  · obtain ⟨rfl, rfl⟩ := Prod.mk.inj (Option.some.inj hrest)
    obtain ⟨hm, hne⟩ := mantissa?_tiles hmantissa
    refine ⟨?_, by simp [hne]⟩
    rw [List.append_assoc, exponent?_tiles hexponent, hm]

end SqlShell.Numeral
