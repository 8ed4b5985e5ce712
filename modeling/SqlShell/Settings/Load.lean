import SqlShell.Files.Entry
import SqlShell.Settings.Basic
import SqlShell.Settings.Environment
/-!
# Finding the settings

Settings come from a file, which must exist if the user names it, and variables of the environment override
them. A file `.env` beside the settings file may add variables to the environment.
-/

namespace SqlShell

namespace Settings

/-- Why there are no settings. -/
inductive LoadError where
  | notFound (path : String)
  | unreadable (reason : String)
  | malformed
deriving DecidableEq, Inhabited

/-- The wording of the error. -/
def LoadError.message : LoadError → String
  | .notFound path => s!"Configuration file not found: {path}"
  | .unreadable reason => reason
  | .malformed => "TOML parse error"

/-- The settings file where none is named. -/
def defaultPath : String := "minisql.toml"

/-- The path of a file in a directory. -/
def inside (directory name : String) : String :=
  if directory.isEmpty then name
  else if directory.toList.getLast? = some '/' then directory ++ name
  else directory ++ "/" ++ name

/-- The path of a file beside another one. -/
def beside (path name : String) : String :=
  let withoutSlashes := path.toList.reverse.dropWhile (· == '/')
  String.ofList (withoutSlashes.dropWhile (· != '/')).reverse ++ name

/-- The truth value that a word spells, whatever its case. -/
def flag? (word : String) : Option Bool :=
  let word := String.ofList ((Text.trim word.toList).map Char.toLower)
  if word ∈ ["1", "true", "yes", "on"] then some true
  else if word ∈ ["0", "false", "no", "off"] then some false
  else none

/-- The settings with what the environment says. Empty texts and words that are no truth values say nothing. -/
def override (settings : Settings) (environment : Environment) : Settings where
  historyFile := ((environment.value? "MINISQL_HISTORY").filter (!·.isEmpty)).or settings.historyFile
  color := ((environment.value? "MINISQL_COLOR").bind flag?).getD settings.color
  showTiming := settings.showTiming
  stopOnError := settings.stopOnError
  prompt := ((environment.value? "MINISQL_PROMPT").filter (!·.isEmpty)).getD settings.prompt

/-- The environment file beside a settings file. -/
def environmentPath (path : Option String) : String :=
  beside (path.getD defaultPath) ".env"

/-- The settings in a file. -/
def ofEntry (entry : FileEntry) : Except LoadError Settings :=
  match entry.content with
  | .error reason => .error (.unreadable reason)
  | .ok content =>
    match read? content with
    | none => .error .malformed
    | some settings => .ok settings

/-- The settings, and the environment that they were overridden by. -/
def load (files : String → FileEntry) (environment : Environment) (path : Option String) :
    Except LoadError (Settings × Environment) := do
  let found := files (path.getD defaultPath)
  match path with
  | some path => if !found.isPresent then throw (.notFound path)
  | none => pure ()
  let environment := match files (environmentPath path) with
    | .file content => environment.addFile content
    | _ => environment
  let settings ← if found.isPresent then ofEntry found else pure default
  return (settings.override environment, environment)

/-- The variables that the settings and the looks of the shell depend on. -/
def variableNames : List String :=
  ["MINISQL_HISTORY", "MINISQL_COLOR", "MINISQL_PROMPT", "HOME", "CLICOLOR_FORCE", "NO_COLOR", "TERM"]

/-- Where entered lines are remembered: the file that is set, or one in the home directory. -/
def historyPath (settings : Settings) (environment : Environment) : Option String :=
  settings.historyFile.or ((environment.value? "HOME").map (inside · ".minisql_history"))

end Settings

end SqlShell
