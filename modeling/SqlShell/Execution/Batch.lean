import SqlShell.Execution.Definition
import SqlShell.Execution.Query
/-!
# Executing batches

The statements of a batch are executed one after another, and one that fails does not keep the next ones from
being executed. A text that cannot be parsed changes nothing at all.
-/

namespace SqlShell.Catalog

/-- Executes a statement: what it reports, and the catalog after it. -/
def execute (catalog : Catalog) : Statement → Except StatementError (Outcome × Catalog)
  | .create s => catalog.createTable s
  | .drop s => catalog.dropTable s
  | .insert s => catalog.insert s
  | .select s => do return (.selected (← catalog.select s), catalog)
  | .delete s => catalog.delete s
  | .update s => catalog.update s

/-- Executes a statement, and keeps the catalog as it is where that fails. -/
def step (catalog : Catalog) (s : Statement) : Except StatementError Outcome × Catalog :=
  match catalog.execute s with
  | .ok (outcome, after) => (.ok outcome, after)
  | .error e => (.error e, catalog)

/-- Executes statements in order: what each reports, and the catalog after the last one. -/
def run (catalog : Catalog) : List Statement → List (Except StatementError Outcome) × Catalog
  | [] => ([], catalog)
  | s :: statements =>
    let (outcome, next) := catalog.step s
    let (outcomes, last) := next.run statements
    (outcome :: outcomes, last)

/-- Executes the statements of a text. -/
def executeBatch (catalog : Catalog) (source : String) :
    Except ParseError (List (Except StatementError Outcome)) × Catalog :=
  match parse source with
  | .error e => (.error e, catalog)
  | .ok statements =>
    let (outcomes, after) := catalog.run statements
    (.ok outcomes, after)

end SqlShell.Catalog
