import SqlShell.Execution.Batch
import SqlShell.Shell.Pending
import SqlShell.Shell.Command
import SqlShell.Shell.Output
import SqlShell.Text.Lines
/-!
# Running batches, commands and scripts

A shell holds a catalog, which every batch is executed on in turn. A script is a text of lines: a line that
comes while no statement is open may be a command, and other lines are collected into batches. With
`stopOnError` the first failure ends a batch and a script.
-/

namespace SqlShell

/-- A catalog, and whether the first failure ends a batch or a script. -/
structure Shell where
  catalog : Catalog
  stopOnError : Bool
deriving Inhabited

/-- What a command leads to. -/
inductive Reaction where
  | proceed (output : Output)
  | exit
deriving DecidableEq, Inhabited

namespace Shell

/-- A shell without tables. -/
def new (stopOnError : Bool) : Shell :=
  ⟨Catalog.empty, stopOnError⟩

/-- The shell with another catalog. -/
def withCatalog (shell : Shell) (catalog : Catalog) : Shell :=
  { shell with catalog }

/-- Executes statements in order, up to the first that reports an error if that is to be the end. -/
def runStatements (stopOnError : Bool) (catalog : Catalog) : List Statement → List Output × Catalog
  | [] => ([], catalog)
  | s :: statements =>
    match catalog.step s with
    | (.ok outcome, next) =>
      let (outputs, last) := runStatements stopOnError next statements
      (.ofOutcome outcome :: outputs, last)
    | (.error e, next) =>
      if stopOnError then ([.error (.statement e)], next)
      else
        let (outputs, last) := runStatements stopOnError next statements
        (.error (.statement e) :: outputs, last)

/-- A batch ends at the same place as a script would, which sees the outputs alone. -/
theorem runStatements_cons (stopOnError : Bool) (catalog : Catalog) (s : Statement) (statements : List Statement) :
    runStatements stopOnError catalog (s :: statements) =
      let (result, next) := catalog.step s
      let output := Output.ofResult result
      if output.isFailure ∧ stopOnError then ([output], next)
      else
        let (outputs, last) := runStatements stopOnError next statements
        (output :: outputs, last) := by
  rw [runStatements]
  rcases catalog.step s with ⟨e | outcome, next⟩
  · cases stopOnError <;> rfl
  · simp [Output.ofResult]

/-- Executes the statements of a text. A text that cannot be parsed gives one error and changes nothing. -/
def runBatch (shell : Shell) (source : String) : List Output × Shell :=
  match parse source with
  | .error e => ([.error (.parse e)], shell)
  | .ok statements =>
    let (outputs, catalog) := runStatements shell.stopOnError shell.catalog statements
    (outputs, shell.withCatalog catalog)

/-- The text of the help command. -/
def help : String :=
  "Statements end with ';' and may span several lines.

  CREATE TABLE t (a int NOT NULL, b text, c boolean);
  INSERT INTO t VALUES (1, 'x', true), (2, NULL, false);
  SELECT a, b AS label FROM t WHERE c ORDER BY a DESC;
  UPDATE t SET b = 'y' WHERE c;
  DELETE FROM t WHERE NOT c;
  DROP TABLE t;

Commands:
  .help            Show this help
  .tables          List tables
  .schema <table>  Show a table's definition
  .snapshot        Print the catalog as JSON
  .exit, .quit     Leave the shell"

/-- A column as it is written in a table definition. -/
def columnDefinition (column : Column) : String :=
  "  " ++ column.name ++ " " ++ column.type.name ++ (if column.nullable then "" else " NOT NULL")

/-- The statement that makes a table of a name without rows. -/
def tableDefinition (name : String) (table : Table) : String :=
  "CREATE TABLE " ++ name ++ " (\n" ++ ",\n".intercalate (table.columns.map columnDefinition) ++ "\n);"

/-- Carries out a command. No command changes the catalog. -/
def runCommand (shell : Shell) : Command → Reaction
  | .help => .proceed (.message help)
  | .tables =>
    let names := shell.catalog.names
    .proceed (.message (if names.isEmpty then "(no tables)" else "\n".intercalate names))
  | .schema none => .proceed (.usage "Usage: .schema <table>")
  | .schema (some name) =>
    match shell.catalog.table? name with
    | none => .proceed (.error (.statement (.tableDoesNotExist name)))
    | some table => .proceed (.message (tableDefinition name table))
  | .snapshot => .proceed (.message ((JsonValue.ofCatalog shell.catalog).pretty ""))
  | .exit => .exit
  | .unknown name => .proceed (.usage s!"Unknown command: {name} (type .help for help)")

/-- The command that a line gives while nothing is collected. -/
def command? (pending : PendingBatch) (line : String) : Option Command :=
  if pending.isEmpty then Command.ofLine? line else none

/-- Runs the lines that are left of a script, with the lines that are collected. -/
def runLines (shell : Shell) (pending : PendingBatch) : List String → List Output × Shell
  | [] => if pending.text.toList.all Text.isBlank then ([], shell) else shell.runBatch pending.text
  | line :: lines =>
    match command? pending line with
    | some command =>
      match shell.runCommand command with
      | .exit => ([], shell)
      | .proceed output =>
        if output.isFailure ∧ shell.stopOnError then ([output], shell)
        else
          let (outputs, last) := shell.runLines pending lines
          (output :: outputs, last)
    | none =>
      match pending.push line with
      | (none, pending) => shell.runLines pending lines
      | (some batch, pending) =>
        let (outputs, next) := shell.runBatch batch
        if outputs.any Output.isFailure ∧ shell.stopOnError then (outputs, next)
        else
          let (more, last) := next.runLines pending lines
          (outputs ++ more, last)

/-- Runs a script. -/
def runScript (shell : Shell) (source : String) : List Output × Shell :=
  shell.runLines .empty ((Text.lines source.toList).map String.ofList)

end Shell

end SqlShell
