import SqlShell.Toml.Reading
/-!
# Settings

What a user can set: how the shell looks and how it treats failures. Settings are read from a document, where
each of them may be missing and unknown keys do not matter, and they are written back as one.
-/

namespace SqlShell

/-- The settings of the shell. -/
structure Settings where
  /-- Where entered lines are remembered, if that is set. -/
  historyFile : Option String
  color : Bool
  showTiming : Bool
  stopOnError : Bool
  prompt : String
deriving DecidableEq

namespace Settings

/-- The settings that hold where nothing is set. -/
def default : Settings :=
  ⟨none, true, false, false, "minisql> "⟩

instance : Inhabited Settings := ⟨default⟩

/-- The keys of the settings. -/
def keys : List String :=
  ["history_file", "color", "show_timing", "stop_on_error", "prompt"]

/-- The settings after one entry of a document; none if a setting has a value of the wrong type or is a table. What
stands at other paths does not matter. -/
def set? (settings : Settings) : Toml.Path × Toml.Entry → Option Settings
  | (["history_file"], .value (.string text)) => some { settings with historyFile := some text }
  | (["color"], .value (.boolean b)) => some { settings with color := b }
  | (["show_timing"], .value (.boolean b)) => some { settings with showTiming := b }
  | (["stop_on_error"], .value (.boolean b)) => some { settings with stopOnError := b }
  | (["prompt"], .value (.string text)) => some { settings with prompt := text }
  | (path, _) => if path ∈ keys.map ([·]) then none else some settings

/-- The settings of a document. -/
def ofDocument? (document : Toml.Document) : Option Settings :=
  document.entries.foldlM set? default

/-- Reads the settings of a text. -/
def read? (text : String) : Option Settings := do
  ofDocument? (← Toml.read? text)

/-- A text as it is written in a document. -/
def writeText (text : String) : String :=
  String.ofList (Toml.write text.toList)

/-- Writes all settings that have a value. -/
def write (settings : Settings) : String :=
  let history := match settings.historyFile with
    | some path => "history_file = " ++ writeText path ++ "\n"
    | none => ""
  history ++ "color = " ++ truthSpelling settings.color ++ "\nshow_timing = " ++ truthSpelling settings.showTiming
    ++ "\nstop_on_error = " ++ truthSpelling settings.stopOnError ++ "\nprompt = " ++ writeText settings.prompt
    ++ "\n"

end Settings

end SqlShell
