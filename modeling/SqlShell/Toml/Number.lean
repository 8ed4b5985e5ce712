import SqlShell.Toml.Text
import SqlShell.Numeral.Value
/-!
# Numbers in settings documents

Integers have 64 bits and may be written in other bases; floating point numbers have 64 bits too. Digits may have single
underscores between them. No setting is a number, so all that matters is whether a word spells one.
-/

namespace SqlShell.Toml

/-- Digits of an accepted kind, with single underscores between them. -/
def isDigits (isDigit : Char → Bool) : List Char → Bool
  | [] => false
  | [c] => isDigit c
  | c :: '_' :: d :: rest => isDigit c && isDigits isDigit (d :: rest)
  | c :: d :: rest => isDigit c && isDigits isDigit (d :: rest)

/-- Decimal digits that do not start with a zero, or a zero alone. -/
def isDecimal (text : List Char) : Bool :=
  isDigits Char.isDigit text && (text.head? != some '0' || text.length == 1)

/-- The number that the decimal digits of a text spell. -/
def decimal (text : List Char) : Nat :=
  Numeral.digitsValue (text.filter Char.isDigit)

/-- A text without a sign in front of it. -/
def dropSign : List Char → List Char
  | '+' :: rest | '-' :: rest => rest
  | text => text

/-- An integer of 64 bits in decimal digits. -/
def isDecimalInteger (word : List Char) : Bool :=
  let magnitude := decimal (dropSign word)
  isDecimal (dropSign word) && (if word.head? = some '-' then magnitude ≤ intBound else magnitude < intBound)

/-- An integer of 64 bits in the digits of another base. -/
def isBasedInteger (base : Nat) (digits : List Char) : Bool :=
  let accepts (c : Char) : Bool := (hexValue? c).any (· < base)
  let magnitude := (digits.filterMap hexValue?).foldl (fun n d => base * n + d) 0
  isDigits accepts digits && magnitude < intBound

/-- The least number that is rounded to infinity among the floating point numbers of 64 bits. -/
def floatBound : Nat :=
  Nat.pow 2 1024 - Nat.pow 2 970

/-- Digits, moved by a power of ten, spell a number below the bound of the floating point numbers. The bound has 309
digits, so other numbers are judged by their size. -/
def isFinite (digits : List Char) (power : Int) : Bool :=
  let digits := (digits.filter Char.isDigit).dropWhile (· == '0')
  let size := digits.length + power
  if digits.isEmpty ∨ size < 309 then true
  else if 309 < size then false
  else decimal digits * Nat.pow 10 power.toNat < floatBound * Nat.pow 10 (-power).toNat

/-- A number with a fraction or an exponent, or one that is not finite. A positive number that is too large is not
taken for infinity. -/
def isFloat (word : List Char) : Bool :=
  let body := dropSign word
  if body = ['i', 'n', 'f'] ∨ body = ['n', 'a', 'n'] then true
  else
    let mantissa := Numeral.mantissaText body
    let whole := Numeral.wholeText mantissa
    let fraction := Numeral.fractionText mantissa
    let exponent := (body.dropWhile (!Numeral.isMarker ·)).drop 1
    let hasFraction := mantissa.contains '.'
    let hasExponent := body.any Numeral.isMarker
    let magnitude : Int := decimal exponent
    let power := if exponent.head? = some '-' then -magnitude else magnitude
    isDecimal whole && (hasFraction || hasExponent)
      && (!hasFraction || isDigits Char.isDigit fraction)
      && (!hasExponent || isDigits Char.isDigit (dropSign exponent))
      && (word.head? == some '-' || isFinite (whole ++ fraction) (power - (fraction.filter Char.isDigit).length))

/-- A number of any kind. -/
def isNumber (word : List Char) : Bool :=
  match word with
  | '0' :: 'x' :: digits => isBasedInteger 16 digits
  | '0' :: 'o' :: digits => isBasedInteger 8 digits
  | '0' :: 'b' :: digits => isBasedInteger 2 digits
  | word => isDecimalInteger word || isFloat word

end SqlShell.Toml
