import SqlShell.Terminal.Session
/-!
# The program

Looks up the files and variables that the plan depends on, follows the plan, and prints its lines as they come.
-/

namespace SqlShell.Program

/-- What stands under a path. -/
def entry (path : String) : IO FileEntry := do
  try
    return .file (← IO.FS.readFile path)
  catch
    | .noFileOrDirectory .. => return .notFound
    | .inappropriateType (some _) .. => return .notDirectory
    | .inappropriateType none .. => return .directory
    | .invalidArgument .. => return .nameTooLong
    | e => return .unreadable (toString e)

/-- The files that a run may read, by their paths. -/
def entries (arguments : List String) : IO (List (String × FileEntry)) := do
  match Arguments.ofList arguments with
  | .run arguments =>
    let paths := [arguments.config.getD Settings.defaultPath, Settings.environmentPath arguments.config]
      ++ arguments.file.toList
    paths.mapM fun path => return (path, ← entry path)
  | _ => return []

/-- The variables that a run may depend on, given the files that it may read. -/
def environment (files : List (String × FileEntry)) : IO Environment := do
  let mentioned := files.flatMap fun
    | (_, .file content) => Environment.mentionedNames content
    | _ => []
  let bindings ← (Settings.variableNames ++ mentioned).filterMapM fun name =>
    return (← IO.getEnv name).map (name, ·)
  return ⟨bindings⟩

/-- A time in milliseconds with two places. -/
def milliseconds (nanoseconds : Nat) : String :=
  let hundredths := (nanoseconds + 5000) / 10000
  let places := toString (hundredths % 100)
  toString (hundredths / 100) ++ "." ++ (if places.length = 1 then "0" ++ places else places)

/-- Prints a line; the time is counted from a starting point. -/
def print (colored : Bool) (started : Nat) (line : Printed) : IO Unit := do
  match line with
  | .out text => IO.println text
  | .err text => IO.eprintln text
  | .prompt text =>
    IO.print text
    (← IO.getStdout).flush
  | .timing => IO.println (Printed.timingText colored (milliseconds ((← IO.monoNanosNow) - started)))
  | .breakdown => IO.eprintln "a column is too wide to be printed"

/-- Prints lines up to a breakdown and gives the exit code. -/
def printAll (colored : Bool) (started exitCode : Nat) (lines : List Printed) : IO Nat := do
  let (lines, exitCode) := Printed.upToBreakdown exitCode lines
  lines.forM (print colored started)
  return exitCode

/-- A line of input without its line end. -/
def withoutLineEnd (line : String) : String :=
  Typing.typed ((Text.lines line.toList).headD [])

/-- Goes on with an interactive session until its input ends, and gives the exit code. -/
partial def interact (appearance : Appearance) (interaction : Interaction) : IO Nat := do
  let input ← IO.getStdin
  let appearance := { appearance with showPrompts := appearance.showPrompts || (← input.isTty) }
  (interaction.prompts appearance).forM (print appearance.colored 0)
  let line ← input.getLine
  let started ← IO.monoNanosNow
  let (lines, next) :=
    if line.isEmpty then ([], none) else interaction.step appearance (withoutLineEnd line)
  let exitCode ← printAll appearance.colored started 0 lines
  if exitCode ≠ 0 then return exitCode
  match next with
  | some next => interact appearance next
  | none => printAll appearance.colored started 0 [Interaction.farewell appearance.colored]

end SqlShell.Program

open SqlShell SqlShell.Program in
/-- Runs the program and gives its exit code. -/
def main (arguments : List String) : IO UInt32 := do
  let started ← IO.monoNanosNow
  let files ← entries arguments
  let lookup (path : String) : FileEntry := (files.lookup path).getD .notFound
  match Plan.ofCommandLine lookup (← environment files) arguments with
  | .leave exitCode lines =>
    lines.forM (print false started)
    return exitCode.toUInt32
  | .script appearance shell source =>
    let (lines, exitCode) := runScriptSession appearance shell source
    return (← printAll appearance.colored started exitCode lines).toUInt32
  | .interactive appearance shell =>
    (Interaction.banner appearance.colored).forM (print appearance.colored started)
    return (← interact appearance (Interaction.start shell)).toUInt32
