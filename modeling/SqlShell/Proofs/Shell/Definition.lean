import SqlShell.Proofs.Dump.Restore
import SqlShell.Proofs.Shell.Script
import SqlShell.Proofs.Token.BareName
/-!
# Table definitions can be executed

The definition that the shell shows of a table has its names as they are, without quotes. If each of them is read as
itself on its own, the definition scans like the CREATE TABLE that a dump has for the table, with a semicolon behind
it. So it is parsed as that statement, and executed on the empty catalog it makes the table without its rows. That a
table of a shell is well-formed follows from how the shell has come by it: batches and scripts keep to the catalogs that
texts lead to (`reached_runBatch`, `reached_runScript`).
-/

namespace SqlShell

open Parsing

namespace Shell

/-! ### What texts lead to -/

theorem reached_runBatch {shell : Shell} (h : shell.catalog.Reached) (source : String) :
    (shell.runBatch source).2.catalog.Reached := by
  rw [runBatch]
  cases hparse : parse source with
  | error e => exact h
  | ok statements =>
    have hafter := h.afterStatements source (runStatements shell.stopOnError shell.catalog statements).1.length
    rw [Catalog.afterStatements, hparse] at hafter
    show (runStatements shell.stopOnError shell.catalog statements).2.Reached
    rwa [catalog_runStatements]

theorem reached_runLines {shell : Shell} (h : shell.catalog.Reached) (pending : PendingBatch) (lines : List String) :
    (shell.runLines pending lines).2.catalog.Reached := by
  induction lines generalizing shell pending with
  | nil =>
    rw [runLines]
    split
    · exact h
    · exact reached_runBatch h pending.text
  | cons line lines ih =>
    rw [runLines]
    cases command? pending line with
    | some command =>
      simp only
      cases shell.runCommand command with
      | exit => exact h
      | proceed output =>
        simp only
        split
        · exact h
        · exact ih h pending
    | none =>
      simp only
      rcases pending.push line with ⟨_ | batch, pending⟩
      · exact ih h pending
      · have hbatch := reached_runBatch h batch
        simp only
        split
        · exact hbatch
        · exact ih hbatch pending

/-- A script keeps to the catalogs that texts lead to, wherever it ends. -/
theorem reached_runScript {shell : Shell} (h : shell.catalog.Reached) (source : String) :
    (shell.runScript source).2.catalog.Reached :=
  reached_runLines h .empty _

/-! ### Names without quotes -/

/-- On its own, the name is one token, which is this name. -/
def IsReadBack (name : String) : Prop :=
  ∃ location, lex name = .ok [⟨.identifier name, location⟩]

theorem IsReadBack.spells {name : String} (h : IsReadBack name) : Spells name.toList [.identifier name] := by
  obtain ⟨_, h⟩ := h
  exact spells_of_lex h

variable {name : String} {table : Table}

/-! ### The text of a definition -/

theorem spells_columnDefinition {column : Column} (h : IsReadBack column.name) :
    Spells (columnDefinition column).toList (Dump.columnKinds column) := by
  have hindent : Leads [' ', ' '] [] := leads_blank.append_leads leads_blank
  have hwhole := hindent.append (Dump.spells_definition column h.spells)
  simpa [columnDefinition] using hwhole

theorem scans_tableDefinition (hname : IsReadBack name) (hcolumns : ∀ column ∈ table.columns, IsReadBack column.name) :
    Scans false (tableDefinition name table).toList (Dump.createKinds (name, table) ++ [.symbol .semicolon]) := by
  have hopening : Leads ['(', '\n'] [.symbol .leftParen] := Dump.leads_leftParen.append_leads leads_newline
  have hseparator : Leads [',', '\n'] [.symbol .comma] :=
    (leads_symbol (c := ',') .comma rfl rfl (by decide)).append_leads leads_newline
  have hclosing : Leads ['\n', ')'] [.symbol .rightParen] := leads_newline.append_leads Dump.leads_rightParen
  have hsemicolon : Leads [';'] [.symbol .semicolon] := leads_symbol .semicolon rfl rfl (by decide)
  have hdefinitions : List.Forall₂ (fun item kinds => Spells item.toList kinds)
      (table.columns.map columnDefinition) (table.columns.map Dump.columnKinds) :=
    forall₂_map_map fun column hcolumn => spells_columnDefinition (hcolumns column hcolumn)
  -- the line feeds next to the parentheses and behind the commas are gaps
  have hlist := Dump.leads_parenthesized hopening hseparator (by decide) hclosing (by decide) hdefinitions
  have hwhole := ((Dump.leads_createTable hname.spells).append_leads hlist).append_leads hsemicolon
  unfold tableDefinition
  simpa [Dump.createKinds] using hwhole.spells.scans

/-! ### Reading it back -/

theorem parseKinds_createKinds {table : String × Table} (h : table.2.columns ≠ []) :
    parseKinds (Dump.createKinds table ++ [.symbol .semicolon]) = .ok [.create (Dump.createTable table)] := by
  have hprintable : (Statement.create (Dump.createTable table)).Printable nestingLimit := Dump.printable_createTable h
  rw [← Dump.kinds_createTable, parseKinds_semicolon hprintable.takes, Dump.unplaced_createTable]

/-- Executed without any tables, the definition of a table makes the table without its rows. -/
theorem runBatch_tableDefinition {shell : Shell} (hempty : shell.catalog = .empty) (htable : table.WellFormed)
    (hname : IsReadBack name) (hcolumns : ∀ column ∈ table.columns, IsReadBack column.name) :
    shell.runBatch (tableDefinition name table) =
      ([.status "CREATE TABLE"], shell.withCatalog (Catalog.empty.put name ⟨table.columns, []⟩)) := by
  have hstep : Catalog.empty.step (.create (Dump.createTable (name, table))) =
      (.ok .created, Catalog.empty.put name ⟨table.columns, []⟩) :=
    Dump.step_createTable rfl htable
  have hparse : parseKinds (Dump.createKinds (name, table) ++ [.symbol .semicolon]) =
      .ok [.create (Dump.createTable (name, table))] :=
    parseKinds_createKinds htable.columns_ne_nil
  rw [runBatch_of_scans shell (scans_tableDefinition hname hcolumns) hparse, perform, hempty, runStatements, hstep]
  rfl

/-- Whatever texts have led to the catalog of a shell, the definition that the shell shows of a table can be executed if
its names need no quotes: on a shell without tables it makes one table, of this name and with these columns, which has
no rows. -/
theorem runCommand_schema_is_executable {shell : Shell} (hshell : shell.catalog.Reached)
    (htable : shell.catalog.table? name = some table) (hname : IsReadBack name)
    (hcolumns : ∀ column ∈ table.columns, IsReadBack column.name) :
    ∃ text, shell.runCommand (.schema (some name)) = .proceed (.message text) ∧
      ∀ fresh : Shell, fresh.catalog = .empty → ∃ made,
        fresh.runBatch text = ([.status "CREATE TABLE"], fresh.withCatalog made) ∧
          made.names = [name] ∧ made.table? name = some ⟨table.columns, []⟩ := by
  refine ⟨tableDefinition name table, by rw [runCommand, htable], fun fresh hfresh => ?_⟩
  have hwellFormed : table.WellFormed := hshell.wellFormed.table htable
  exact ⟨_, runBatch_tableDefinition hfresh hwellFormed hname hcolumns, rfl, Catalog.table?_put_self⟩

theorem runCommand_schema_is_executable_of_three_columns :
    let source := "CREATE TABLE t (id INT NOT NULL, Über TEXT, \"ok\" BOOLEAN NOT NULL);
      INSERT INTO t VALUES (1, NULL, true)"
    let shell : Shell := ⟨Catalog.empty.afterStatements source 2, true⟩
    let table : Table := ⟨[⟨"id", .int, false⟩, ⟨"über", .text, true⟩, ⟨"ok", .boolean, false⟩],
      [[.int 1, .null, .boolean true]]⟩
    shell.catalog.Reached ∧ shell.catalog.table? "t" = some table ∧ IsReadBack "t" ∧
      (∀ column ∈ table.columns, IsReadBack column.name) ∧
      ∃ text, shell.runCommand (.schema (some "t")) = .proceed (.message text) ∧
        ∀ fresh : Shell, fresh.catalog = .empty → ∃ made,
          fresh.runBatch text = ([.status "CREATE TABLE"], fresh.withCatalog made) ∧
            made.names = ["t"] ∧ made.table? "t" = some ⟨table.columns, []⟩ := by
  intro source shell table
  have hshell : shell.catalog.Reached := .afterStatements .empty _ 2
  have htable : shell.catalog.table? "t" = some table := by decide +kernel
  have hname : IsReadBack "t" := ⟨Location.start, by decide +kernel⟩
  have hcolumns : ∀ column ∈ table.columns, IsReadBack column.name := by
    have hid : IsReadBack "id" := ⟨Location.start, by decide +kernel⟩
    have huber : IsReadBack "über" := ⟨Location.start, by decide +kernel⟩
    have hok : IsReadBack "ok" := ⟨Location.start, by decide +kernel⟩
    simpa [table] using ⟨hid, huber, hok⟩
  exact ⟨hshell, htable, hname, hcolumns, runCommand_schema_is_executable hshell htable hname hcolumns⟩

end Shell

end SqlShell
