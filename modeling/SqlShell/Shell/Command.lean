import SqlShell.Text.Blank
/-!
# Commands

Lines that start with a point are commands to the shell itself.
-/

namespace SqlShell

/-- A command to the shell. -/
inductive Command where
  | help
  | tables
  /-- Show the definition of a table, which should be given. -/
  | schema (table : Option String)
  | snapshot
  | exit
  | unknown (name : String)
deriving DecidableEq, Inhabited

namespace Command

/-- The command of a name, with the word behind it if there is one. -/
def ofName (name : String) (argument : Option String) : Command :=
  match name with
  | ".help" | ".h" | ".?" => .help
  | ".tables" => .tables
  | ".schema" => .schema argument
  | ".snapshot" => .snapshot
  | ".exit" | ".quit" | ".q" => .exit
  | name => .unknown name

/-- The command that a line gives. Blanks around its words do not matter. -/
def ofLine? (line : String) : Option Command :=
  match Text.word line.toList with
  | '.' :: rest =>
    let argument := Text.word (Text.afterWord line.toList)
    some (ofName (String.ofList ('.' :: rest)) (if argument = [] then none else some (String.ofList argument)))
  | _ => none

end Command

end SqlShell
