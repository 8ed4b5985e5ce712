import SqlShell.Shell.Output
import SqlShell.Terminal.Style
/-!
# Printed lines

What the program prints, line by line. Errors go to the stream for errors. How long a batch took is known only
when it has been executed, so its line is left open. The program breaks down where an output has no text, and prints
nothing more.
-/

namespace SqlShell

/-- A line for one of the two streams. -/
inductive Printed where
  | out (text : String)
  | err (text : String)
  /-- How long the batch took. -/
  | timing
  /-- The text in front of the next line of input, which goes on in the same line. -/
  | prompt (text : String)
  /-- The report of a breakdown, whose wording is left open. -/
  | breakdown
deriving DecidableEq, Inhabited

namespace Printed

/-- The line for an output. -/
def ofOutput (colored json : Bool) (output : Output) : Printed :=
  match output.text? json with
  | none => .breakdown
  | some text =>
    match output with
    | .error _ => .err (Style.failure.paint colored "Error:" ++ " " ++ text)
    | .usage _ => .err (Style.warning.paint colored text)
    | .status _ => .out (Style.faint.paint colored text)
    | .rows _ | .message _ => .out text

/-- The exit code behind a breakdown. -/
def breakdownCode : Nat := 101

/-- The lines that are printed, up to a breakdown, and the exit code, which a breakdown decides. -/
def upToBreakdown (exitCode : Nat) : List Printed → List Printed × Nat
  | [] => ([], exitCode)
  | .breakdown :: _ => ([.breakdown], breakdownCode)
  | line :: lines =>
    let (printed, code) := upToBreakdown exitCode lines
    (line :: printed, code)

/-- The line for a time in milliseconds. -/
def timingText (colored : Bool) (milliseconds : String) : String :=
  Style.faint.paint colored s!"  ({milliseconds}ms)"

end Printed

end SqlShell
