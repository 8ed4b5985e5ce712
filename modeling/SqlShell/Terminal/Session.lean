import SqlShell.Settings.Load
import SqlShell.Shell.Script
import SqlShell.Terminal.Arguments
import SqlShell.Terminal.Printed
import SqlShell.Terminal.Typing
/-!
# Sessions

A run of the program: from the arguments, the environment and the files it follows what is to be done, and from
that and the input what is printed. An interactive session reads commands and statements line by line and goes
on after failures; a script ends with an exit code that tells whether anything failed.
-/

namespace SqlShell

/-- How a session looks. -/
structure Appearance where
  colored : Bool
  json : Bool
  showTiming : Bool
  /-- A prompt stands in front of every line of input, even if that does not come from a terminal. -/
  showPrompts : Bool
  prompt : String
deriving DecidableEq, Inhabited

/-- What the program is to do. -/
inductive Plan where
  /-- Print lines and leave with an exit code. -/
  | leave (exitCode : Nat) (lines : List Printed)
  | script (appearance : Appearance) (shell : Shell) (source : String)
  | interactive (appearance : Appearance) (shell : Shell)

/-- Colors are shown where they are forced, unless the user wants none. -/
def showsColors (environment : Environment) (settings : Settings) (arguments : Arguments) : Bool :=
  settings.color && !arguments.noColor && (environment.value? "CLICOLOR_FORCE").any (· != "0")

/-- The help text has colors where they are forced, unless the environment asks for none. -/
def showsHelpColors (environment : Environment) : Bool :=
  (environment.value? "CLICOLOR_FORCE").any (!·.isEmpty) && !(environment.value? "NO_COLOR").any (!·.isEmpty)

/-- The terminal cannot move its cursor, so that nothing but prompts can be shown while a line is entered. -/
def isPlainTerminal (environment : Environment) : Bool :=
  (environment.value? "TERM").any fun name => name.toLower ∈ ["dumb", "cons25", "emacs"]

namespace Plan

/-- The line for something that keeps the program from running. -/
def fatal (message : String) : Plan :=
  .leave 1 [.err s!"Error: {message}"]

/-- What the program is to do for valid arguments. -/
def ofArguments (files : String → FileEntry) (environment : Environment) (arguments : Arguments) : Plan :=
  match Settings.load files environment arguments.config with
  | .error e => fatal e.message
  | .ok (settings, environment) =>
    let appearance : Appearance :=
      ⟨showsColors environment settings arguments, arguments.json, settings.showTiming,
        isPlainTerminal environment, settings.prompt⟩
    let shell := Shell.new settings.stopOnError
    match arguments.file, arguments.command with
    | some path, _ =>
      match (files path).content with
      | .ok source => .script appearance shell source
      | .error reason => fatal s!"Failed to read {path}\n\nCaused by:\n    {reason}"
    | none, some source => .script appearance shell source
    | none, none => .interactive appearance shell

/-- What the program is to do. -/
def ofCommandLine (files : String → FileEntry) (environment : Environment) (arguments : List String) : Plan :=
  match Arguments.ofList arguments with
  | .invalid => .leave 2 []
  | .help => .leave 0 [.out (Arguments.help (showsHelpColors environment))]
  | .run arguments => ofArguments files environment arguments

end Plan

/-- The lines for the outputs of a batch. -/
def Appearance.batchLines (appearance : Appearance) (outputs : List Output) : List Printed :=
  outputs.map (Printed.ofOutput appearance.colored appearance.json)
    ++ (if appearance.showTiming then [.timing] else [])

/-- Runs a script: its lines and the exit code. -/
def runScriptSession (appearance : Appearance) (shell : Shell) (source : String) : List Printed × Nat :=
  let (outputs, _) := shell.runScript source
  (appearance.batchLines outputs, if outputs.any Output.isFailure then 1 else 0)

/-- The state of an interactive session. -/
structure Interaction where
  shell : Shell
  pending : PendingBatch
deriving Inhabited

namespace Interaction

/-- An interactive session before its first line. -/
def start (shell : Shell) : Interaction :=
  ⟨shell, .empty⟩

/-- The lines that a session starts with. -/
def banner (colored : Bool) : List Printed :=
  [.out ("  " ++ Style.title.paint colored "MiniSQL" ++ " " ++ Style.faint.paint colored "0.1.0"),
    .out ("  Type " ++ Style.warning.paint colored ".help" ++ " for help, " ++ Style.warning.paint colored ".exit"
      ++ " to quit\n")]

/-- The line that a session ends with. -/
def farewell (colored : Bool) : Printed :=
  .out (Style.faint.paint colored "Goodbye!")

/-- What is shown in front of the next line. -/
def prompt (interaction : Interaction) (appearance : Appearance) : String :=
  if interaction.pending.isEmpty then Style.prompt.paint appearance.colored appearance.prompt
  else Style.faint.paint appearance.colored "..." ++ " "

/-- Takes one line: what is printed, and the session after it, or none if the line ends it. -/
def step (appearance : Appearance) (interaction : Interaction) (line : String) :
    List Printed × Option Interaction :=
  match Shell.command? interaction.pending line with
  | some command =>
    match interaction.shell.runCommand command with
    | .exit => ([], none)
    | .proceed output => ([Printed.ofOutput appearance.colored appearance.json output], some interaction)
  | none =>
    match interaction.pending.push line with
    | (none, pending) => ([], some { interaction with pending })
    | (some batch, pending) =>
      let (outputs, shell) := interaction.shell.runBatch batch
      (appearance.batchLines outputs, some ⟨shell, pending⟩)

/-- The prompt, where prompts are shown. -/
def prompts (interaction : Interaction) (appearance : Appearance) : List Printed :=
  if appearance.showPrompts then [.prompt (interaction.prompt appearance)] else []

/-- Takes lines up to the end of the input or the line that ends the session. -/
def run (appearance : Appearance) (interaction : Interaction) : List String → List Printed
  | [] => interaction.prompts appearance ++ [farewell appearance.colored]
  | line :: lines =>
    interaction.prompts appearance ++
      match interaction.step appearance line with
      | (printed, some next) => printed ++ next.run appearance lines
      | (printed, none) => printed ++ [farewell appearance.colored]

end Interaction

/-- Everything that a plan prints for an input, and the exit code. -/
def Plan.run (input : String) : Plan → List Printed × Nat
  | .leave exitCode lines => (lines, exitCode)
  | .script appearance shell source =>
    let (lines, exitCode) := runScriptSession appearance shell source
    Printed.upToBreakdown exitCode lines
  | .interactive appearance shell =>
    Printed.upToBreakdown 0 (Interaction.banner appearance.colored
      ++ (Interaction.start shell).run appearance ((Text.lines input.toList).map Typing.typed))

/-- A plan's lines have colors. -/
def Plan.colored : Plan → Bool
  | .leave _ _ => false
  | .script appearance _ _ | .interactive appearance _ => appearance.colored

end SqlShell
