import SqlShell.Numeral.Form
/-!
# The value of numbers

A number stands for its digits times a power of ten, and it is an int if that is a whole number of 64 bits. All
arithmetic is exact: no digit is rounded away, and a fraction is refused however small it is.
-/

namespace SqlShell

/-- Why a written number is not an int. -/
inductive NumeralError where
  | malformed
  | notWhole
  | outOfRange
deriving DecidableEq, Inhabited

/-- Two to the power 63. An int lies below this bound, and not below its negation. -/
def intBound : Nat := 9223372036854775808

namespace Numeral

/-- The number that a list of digits spells. -/
def digitsValue (ds : List Char) : Nat :=
  ds.foldl (fun n d => 10 * n + (d.toNat - '0'.toNat)) 0

/-- The part of a number before its exponent letter. -/
def mantissaText (text : List Char) : List Char :=
  text.takeWhile (!isMarker ·)

/-- The exponent that is written behind the letter, if it has 64 bits. A number without a letter has the
exponent zero. -/
def exponentValue? (text : List Char) : Option Int :=
  match text.dropWhile (!isMarker ·) with
  | [] => some 0
  | _ :: written =>
    let magnitude := digitsValue (afterSign written)
    let value : Int := if sign written = ['-'] then -magnitude else magnitude
    if afterSign written ≠ [] ∧ (afterSign written).all Char.isDigit ∧ -intBound ≤ value ∧ value < intBound then
      some value
    else none

/-- The part of a mantissa before its point. -/
def wholeText (mantissa : List Char) : List Char :=
  mantissa.takeWhile (· != '.')

/-- The part of a mantissa behind its point. -/
def fractionText (mantissa : List Char) : List Char :=
  (mantissa.dropWhile (· != '.')).drop 1

/-- The int of a magnitude and a sign. -/
def signed (negative : Bool) (magnitude : Nat) : Except NumeralError Int64 :=
  if negative then
    if magnitude ≤ intBound then .ok (Int64.ofInt (-magnitude)) else .error .outOfRange
  else
    if magnitude < intBound then .ok (Int64.ofInt magnitude) else .error .outOfRange

/-- The int that is `digits` times ten to the power `scale`. The first digit is not zero, so no power beyond
the eighteenth leaves an int. -/
def scaled (negative : Bool) (digits : List Char) (scale : Int) : Except NumeralError Int64 :=
  if scale < 0 then
    let kept := digits.length - scale.natAbs
    if digits.length ≤ scale.natAbs ∨ (digits.drop kept).any (· != '0') then .error .notWhole
    else signed negative (digitsValue (digits.take kept))
  else if scale ≤ 18 then signed negative (digitsValue digits * Nat.pow 10 scale.natAbs)
  else .error .outOfRange

/-- The int that a written number stands for, or its negation. -/
def toInt64 (text : List Char) (negative : Bool) : Except NumeralError Int64 :=
  let whole := wholeText (mantissaText text)
  let fraction := fractionText (mantissaText text)
  match exponentValue? text with
  | none => .error .malformed
  | some exponent =>
    if !(whole ++ fraction).all Char.isDigit then .error .malformed
    else
      let digits := (whole ++ fraction).dropWhile (· == '0')
      let scale := exponent - fraction.length
      if digits = [] then .ok 0
      else if scale < -intBound then .error .outOfRange
      else scaled negative digits scale

end Numeral

end SqlShell
