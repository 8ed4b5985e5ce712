/-!
# Blanks

The characters with the Unicode property White_Space, and the two operations on text that depend on it:
trimming, and cutting a line into words.
-/

namespace SqlShell.Text

/-- The character has the property White_Space. -/
def isBlank (c : Char) : Bool :=
  let code := c.toNat
  if code < 0x80 then decide (0x09 ≤ code ∧ code ≤ 0x0D) || code == 0x20
  else code == 0x85 || code == 0xA0 || code == 0x1680 || decide (0x2000 ≤ code ∧ code ≤ 0x200A)
    || code == 0x2028 || code == 0x2029 || code == 0x202F || code == 0x205F || code == 0x3000

/-- A text without its leading blanks. -/
def trimStart (text : List Char) : List Char :=
  text.dropWhile isBlank

/-- A text without its trailing blanks. -/
def trimEnd (text : List Char) : List Char :=
  (text.reverse.dropWhile isBlank).reverse

/-- A text without the blanks at its ends. -/
def trim (text : List Char) : List Char :=
  trimEnd (trimStart text)

/-- The first word of a text: the characters other than blanks up to the next blank. -/
def word (text : List Char) : List Char :=
  (trimStart text).takeWhile (!isBlank ·)

/-- What follows the first word of a text. -/
def afterWord (text : List Char) : List Char :=
  (trimStart text).dropWhile (!isBlank ·)

end SqlShell.Text
