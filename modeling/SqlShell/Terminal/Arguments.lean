import SqlShell.Terminal.Style
/-!
# Command-line arguments

The options of the program. An option with a value takes it from the same argument or from the next one, which
must not look like another option. Each option may be given once, and there are no other arguments.
-/

namespace SqlShell

/-- What the user asks for. -/
structure Arguments where
  file : Option String := none
  command : Option String := none
  config : Option String := none
  json : Bool := false
  noColor : Bool := false
  logLevel : Option String := none
deriving DecidableEq, Inhabited

/-- What the arguments amount to. -/
inductive Invocation where
  | run (arguments : Arguments)
  | help
  | invalid
deriving DecidableEq, Inhabited

namespace Arguments

/-- The options that take a value. -/
inductive ValueOption where
  | file
  | command
  | config
  | logLevel
deriving DecidableEq

/-- The arguments with a value for an option. An option that has a value is not given another one, and a path is
not empty. -/
def set? (arguments : Arguments) (option : ValueOption) (value : String) : Option Arguments :=
  match option with
  | .file => if arguments.file.isSome || value.isEmpty then none else some { arguments with file := some value }
  | .command => if arguments.command.isSome then none else some { arguments with command := some value }
  | .config => if arguments.config.isSome || value.isEmpty then none else some { arguments with config := some value }
  | .logLevel => if arguments.logLevel.isSome then none else some { arguments with logLevel := some value }

/-- One argument, as it is to be understood. -/
inductive Item where
  | json
  | noColor
  | help
  /-- An option with its value, if that is in the same argument. -/
  | valued (option : ValueOption) (value : Option String)
  /-- The sign that no options follow. -/
  | ending
  | unknown
deriving DecidableEq

/-- The part of an argument behind an option, if the argument starts with it. -/
def after? (option argument : String) : Option (List Char) :=
  option.toList.isPrefixOf? argument.toList

/-- A value behind a long option: none, or one behind an equals sign. -/
def longValue? : List Char → Option (Option String)
  | [] => some none
  | '=' :: value => some (some (String.ofList value))
  | _ => none

/-- A value behind a short option, with or without an equals sign. -/
def shortValue : List Char → Option String
  | [] => none
  | '=' :: value => some (String.ofList value)
  | value => some (String.ofList value)

/-- A long option with a value. -/
def long? (argument : String) : Option Item :=
  [("--file", ValueOption.file), ("--command", .command), ("--config", .config), ("--log-level", .logLevel)].findSome?
    fun (name, option) => do return .valued option (← longValue? (← after? name argument))

/-- A short option with a value. -/
def short? (argument : String) : Option Item :=
  [("-f", ValueOption.file), ("-c", .command)].findSome?
    fun (name, option) => (after? name argument).map fun value => .valued option (shortValue value)

/-- How an argument is to be understood. -/
def item (argument : String) : Item :=
  match argument with
  | "--json" => .json
  | "--no-color" => .noColor
  | "--help" => .help
  | "--" => .ending
  | argument =>
    if (after? "-h" argument).isSome then .help
    else ((long? argument).or (short? argument)).getD .unknown

/-- An argument can be the value of the option in front of it. -/
def canBeValue (argument : String) : Bool :=
  argument == "-" || argument.toList.head? != some '-'

/-- Reads the arguments that are left. A script file and a batch of commands exclude each other. -/
def read (arguments : Arguments) : List String → Invocation
  | [] => if arguments.file.isSome && arguments.command.isSome then .invalid else .run arguments
  | argument :: rest =>
    match item argument, rest with
    | .json, rest => if arguments.json then .invalid else { arguments with json := true }.read rest
    | .noColor, rest => if arguments.noColor then .invalid else { arguments with noColor := true }.read rest
    | .help, _ => .help
    | .ending, [] => arguments.read []
    | .valued option (some value), rest =>
      match arguments.set? option value with
      | some arguments => arguments.read rest
      | none => .invalid
    | .valued option none, value :: rest =>
      if canBeValue value then
        match arguments.set? option value with
        | some arguments => arguments.read rest
        | none => .invalid
      else .invalid
    | _, _ => .invalid

/-- Reads all arguments. -/
def ofList (arguments : List String) : Invocation :=
  read {} arguments

/-- How an option is explained. -/
structure Explanation where
  short : Option String
  long : String
  placeholder : Option String
  text : String

/-- The explanations of all options. -/
def explanations : List Explanation :=
  [⟨some "-f", "--file", some "<FILE>", "SQL script to run"⟩,
    ⟨some "-c", "--command", some "<COMMAND>", "SQL batch to run"⟩,
    ⟨none, "--config", some "<CONFIG>", "Configuration file"⟩,
    ⟨none, "--json", none, "Print result sets as JSON"⟩,
    ⟨none, "--no-color", none, "Disable colored output"⟩,
    ⟨none, "--log-level", some "<LOG_LEVEL>", "Log filter (e.g. \x60debug\x60, \x60minisql_core=debug\x60)"⟩,
    ⟨some "-h", "--help", none, "Print help"⟩]

/-- The forms of an option in front of its explanation. -/
def Explanation.forms (colored : Bool) (e : Explanation) : String :=
  let short := match e.short with
    | some short => Style.literal.paint colored short ++ ", "
    | none => "    "
  let placeholder := match e.placeholder with
    | some placeholder => " " ++ placeholder
    | none => ""
  short ++ Style.literal.paint colored e.long ++ placeholder

/-- The line that explains an option. All explanations start in the same column. -/
def Explanation.line (colored : Bool) (e : Explanation) : String :=
  let widest := (explanations.map fun e => (e.forms false).length).foldl max 0
  let gap := String.ofList (List.replicate (widest + 2 - (e.forms false).length) ' ')
  "  " ++ e.forms colored ++ gap ++ e.text

/-- The text that explains the options. -/
def help (colored : Bool) : String :=
  "MiniSQL - an in-memory SQL shell\n\n" ++ Style.heading.paint colored "Usage:" ++ " "
    ++ Style.literal.paint colored "minisql" ++ " [OPTIONS]\n\n" ++ Style.heading.paint colored "Options:" ++ "\n"
    ++ "\n".intercalate (explanations.map (·.line colored))

end Arguments

end SqlShell
