/-!
# Styles

The looks that a terminal can give to a text. A style is switched on by an escape sequence and off by a reset;
since a reset inside the text would end the style too, it is switched on again behind each one.
-/

namespace SqlShell

/-- A look for a text. -/
inductive Style where
  | failure
  | warning
  | faint
  | title
  | prompt
  | heading
  | literal
deriving DecidableEq, Inhabited

namespace Style

/-- The sequence that switches the style on. -/
def start : Style → List Char
  | .failure => ['\x1b', '[', '1', ';', '3', '1', 'm']
  | .warning => ['\x1b', '[', '3', '3', 'm']
  | .faint => ['\x1b', '[', '2', 'm']
  | .title => ['\x1b', '[', '1', ';', '3', '7', 'm']
  | .prompt => ['\x1b', '[', '3', '6', 'm']
  | .heading => ['\x1b', '[', '1', 'm', '\x1b', '[', '4', 'm']
  | .literal => ['\x1b', '[', '1', 'm']

/-- The sequence that switches all styles off. -/
def reset : List Char :=
  ['\x1b', '[', '0', 'm']

/-- A text with the style switched on again behind each reset in it. -/
def resume (style : Style) : List Char → List Char
  | '\x1b' :: '[' :: '0' :: 'm' :: rest => reset ++ style.start ++ style.resume rest
  | c :: rest => c :: style.resume rest
  | [] => []

/-- A text in the style, or as it is where there are no colors. -/
def paint (style : Style) (colored : Bool) (text : String) : String :=
  if colored then String.ofList (style.start ++ style.resume text.toList ++ reset) else text

end Style

end SqlShell
