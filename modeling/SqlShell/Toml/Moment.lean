import SqlShell.Toml.Key
import SqlShell.Toml.Number
/-!
# Dates and times in settings documents

A moment is a date, a time, or both; both may be followed by the offset of a time zone. No setting is a moment, so
only the text behind one matters.
-/

namespace SqlShell.Toml

/-- Reads so many digits, which spell a number in a range. -/
def readDigits? (count least greatest : Nat) (text : List Char) : Option (Nat × List Char) :=
  let digits := text.take count
  if digits.length = count ∧ digits.all Char.isDigit ∧ least ≤ decimal digits ∧ decimal digits ≤ greatest then
    some (decimal digits, text.drop count)
  else none

/-- February has an additional day. -/
def isLeapYear (year : Nat) : Bool :=
  year % 4 == 0 && (year % 100 != 0 || year % 400 == 0)

/-- The number of days of a month. -/
def monthLength (year month : Nat) : Nat :=
  if month = 2 then if isLeapYear year then 29 else 28
  else if month ∈ [4, 6, 9, 11] then 30
  else 31

/-- Reads a date, such as `1979-05-27`. -/
def readDate? (text : List Char) : Option (List Char) := do
  let (year, rest) ← readDigits? 4 0 9999 text
  let (month, rest) ← readDigits? 2 1 12 (← skip? '-' rest)
  let (_, rest) ← readDigits? 2 1 (monthLength year month) (← skip? '-' rest)
  return rest

/-- Reads a time, such as `07:32:00` or `07:32:00.5`. A minute may have a leap second. -/
def readTime? (text : List Char) : Option (List Char) := do
  let (_, rest) ← readDigits? 2 0 23 text
  let (_, rest) ← readDigits? 2 0 59 (← skip? ':' rest)
  let (_, rest) ← readDigits? 2 0 60 (← skip? ':' rest)
  match rest with
  | '.' :: rest => if (rest.head?).any Char.isDigit then some (rest.dropWhile Char.isDigit) else none
  | rest => some rest

/-- Reads the offset of a time zone, such as `Z` or `+01:30`. -/
def readOffset? : List Char → Option (List Char)
  | [] => none
  | c :: rest =>
    if c = 'Z' ∨ c = 'z' then some rest
    else if c = '+' ∨ c = '-' then do
      let (_, rest) ← readDigits? 2 0 23 rest
      let (_, rest) ← readDigits? 2 0 59 (← skip? ':' rest)
      return rest
    else none

/-- Reads a time behind a date, with the letter or the space between them and an offset. -/
def readClock? : List Char → Option (List Char)
  | [] => none
  | c :: rest =>
    if c = 'T' ∨ c = 't' ∨ c = ' ' then (readTime? rest).map fun rest => (readOffset? rest).getD rest else none

/-- Reads a moment. -/
def readMoment? (text : List Char) : Option (List Char) :=
  match readDate? text with
  | some rest => some ((readClock? rest).getD rest)
  | none => readTime? text

end SqlShell.Toml
