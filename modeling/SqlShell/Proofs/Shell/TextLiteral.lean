import SqlShell.Proofs.Dump.Restore
import SqlShell.Proofs.Shell.Script
import SqlShell.Proofs.Token.BareName
/-!
# Text literals in scripts

A text literal may go on over several lines. A batch stores what stands between the quotes. A script is cut into lines
before it is lexed, and the lines are put together with line feeds alone, so that a carriage return in front of a line
feed is lost inside a literal too. Nothing else is: not quotes, semicolons and comment signs, not points at the start of
a line, not blank lines, and not carriage returns elsewhere (`Shell.script_stores_text_with_line_feeds`).
-/

namespace SqlShell

open Text Parsing

/-! ### Line ends between quotes -/

namespace Quoted

theorem head?_double (delimiter : Char) (contents : List Char) :
    (double delimiter contents).head? = contents.head? := by
  cases contents with
  | nil => rfl
  | cons c contents =>
    rw [double]
    split
    · next hc => simp [hc]
    · rfl

/-- Line ends are the same whether delimiters are written twice or not. -/
theorem withLineFeeds_double {delimiter : Char} (hreturn : delimiter ≠ '\r') (hfeed : delimiter ≠ '\n')
    (contents : List Char) :
    withLineFeeds (double delimiter contents) = double delimiter (withLineFeeds contents) := by
  fun_induction withLineFeeds contents with
  | case1 => rfl
  | case2 rest ih =>
    simp only [double, if_neg hreturn.symm, if_neg hfeed.symm, withLineFeeds, ih]
  | case3 c rest hline ih =>
    by_cases hc : c = delimiter
    · simp only [double, if_pos hc]
      rw [withLineFeeds_cons (.inl hreturn), withLineFeeds_cons (.inl hreturn), ih]
    · have hcut : c ≠ '\r' ∨ (double delimiter rest).head? ≠ some '\n' := by
        rw [head?_double]
        refine Decidable.or_iff_not_imp_left.2 fun hc hnext => ?_
        obtain ⟨more, rfl⟩ := List.head?_eq_some_iff.1 hnext
        exact hline more (Decidable.not_not.1 hc) rfl
      simp only [double, if_neg hc]
      rw [withLineFeeds_cons hcut, ih]

end Quoted

namespace Shell

/-! ### Scripts without carriage returns at line ends -/

/-- A script stands for the statements that its text stands for with line feeds alone at the line ends. -/
theorem runScript_of_scans (shell : Shell) {source : String} {kinds : List Token.Kind} {statements : List Statement}
    (h : Scans false (withLineFeeds source.toList) kinds) (hkinds : parseKinds kinds = .ok statements) :
    shell.runScript source = shell.perform statements := by
  have hlines : Scans false (unlines (lines source.toList)) kinds := by
    rcases unlines_lines_eq source.toList with htext | htext
    · rwa [htext]
    · rw [htext]
      exact h.append_newline
  exact runLines_eq_perform (ne_newline_of_mem_lines _) PendingBatch.collected_empty hlines hkinds

/-! ### One literal -/

/-- The statement that inserts a row of one text into the table `t`. -/
def insertingText (contents : String) : String :=
  "INSERT INTO t VALUES ('" ++ String.ofList (Quoted.double '\'' contents.toList) ++ "');"

/-- The table `t` with one row, which holds the text. -/
def rowOfText (contents : String) : String × Table :=
  ("t", ⟨[], [[.text contents]]⟩)

theorem toList_insertingText (contents : String) :
    (insertingText contents).toList =
      "INSERT INTO t VALUES ('".toList ++ (Quoted.double '\'' contents.toList ++ "');".toList) := by
  have hcontents := String.toList_ofList (l := Quoted.double '\'' contents.toList)
  unfold insertingText
  rw [String.toList_append, String.toList_append, hcontents, List.append_assoc]

theorem withLineFeeds_insertingText (contents : String) :
    withLineFeeds (insertingText contents).toList =
      (insertingText (String.ofList (withLineFeeds contents.toList))).toList := by
  have hfront : withLineFeeds "INSERT INTO t VALUES ('".toList = "INSERT INTO t VALUES ('".toList := by decide +kernel
  have hback : withLineFeeds "');".toList = "');".toList := by decide +kernel
  have hfrontCut : "INSERT INTO t VALUES ('".toList.getLast? ≠ some '\r' := by decide +kernel
  have hbackCut : "');".toList.head? ≠ some '\n' := by decide +kernel
  have hcontents : withLineFeeds (Quoted.double '\'' contents.toList) =
      Quoted.double '\'' (withLineFeeds contents.toList) :=
    Quoted.withLineFeeds_double (by decide) (by decide) contents.toList
  have hwritten := String.toList_ofList (l := withLineFeeds contents.toList)
  rw [toList_insertingText, toList_insertingText, hwritten, withLineFeeds_append (.inl hfrontCut),
    withLineFeeds_append (.inr hbackCut), hfront, hcontents, hback]

theorem scans_insertingText (contents : String) :
    Scans false (insertingText contents).toList (Dump.insertKinds (rowOfText contents) ++ [.symbol .semicolon]) := by
  have hlex : lex "t" = .ok [⟨.identifier "t", Location.start⟩] := by decide +kernel
  have hname : Spells "t".toList [.identifier "t"] := spells_of_lex hlex
  have hrow : Leads (Dump.list [Dump.cell (.text contents)]).toList (Dump.listKinds [[.string contents]]) :=
    Dump.leads_list (.cons (Dump.spells_cell (.text contents)) .nil)
  have hsemicolon : Leads [';'] [.symbol .semicolon] := leads_symbol .semicolon rfl rfl (by decide)
  have hwhole := ((Dump.leads_insertInto hname).append_leads hrow).append_leads hsemicolon
  unfold insertingText
  simpa [Dump.list, Dump.cell, Quoted.encode, Dump.insertKinds, rowOfText, separated, Dump.cellKinds]
    using hwhole.spells.scans

theorem parseKinds_insertingText (contents : String) :
    parseKinds (Dump.insertKinds (rowOfText contents) ++ [.symbol .semicolon]) =
      .ok [.insert (Dump.insertRows (rowOfText contents))] := by
  have hprintable : (Statement.insert (Dump.insertRows (rowOfText contents))).Printable nestingLimit :=
    Dump.printable_insertRows nestingLimit (by simp [rowOfText]) (by simp [rowOfText])
  rw [← Dump.kinds_insertRows, parseKinds_semicolon hprintable.takes, Dump.unplaced_insertRows]

variable {shell : Shell} {table : Table} {column : String} {nullable : Bool}

theorem perform_insertRows (htable : shell.catalog.table? "t" = some table)
    (hcolumns : table.columns = [⟨column, .text, nullable⟩]) (contents : String) :
    shell.perform [.insert (Dump.insertRows (rowOfText contents))] =
      ([.status "INSERT 1"],
        shell.withCatalog (shell.catalog.put "t" ⟨table.columns, table.rows ++ [[.text contents]]⟩)) := by
  have hfits : ∀ row ∈ (rowOfText contents).2.rows, List.Forall₂ Column.Holds table.columns row := by
    simp [rowOfText, hcolumns, Column.Holds, Cell.type?]
  have hstep : shell.catalog.step (.insert (Dump.insertRows (rowOfText contents))) =
      (.ok (.inserted 1), shell.catalog.put "t" ⟨table.columns, table.rows ++ [[.text contents]]⟩) :=
    Dump.step_insertRows htable hfits
  rw [perform, runStatements, hstep]
  rfl

/-- A batch stores a text literal as it stands between the quotes. A script stores it with line feeds alone at its line
ends, so that the two agree exactly if the text has no carriage return in front of a line feed. -/
theorem script_stores_text_with_line_feeds (htable : shell.catalog.table? "t" = some table)
    (hcolumns : table.columns = [⟨column, .text, nullable⟩]) (contents : String) :
    let stored (text : String) : Shell :=
      shell.withCatalog (shell.catalog.put "t" ⟨table.columns, table.rows ++ [[.text text]]⟩)
    shell.runBatch (insertingText contents) = ([.status "INSERT 1"], stored contents) ∧
      shell.runScript (insertingText contents) =
        ([.status "INSERT 1"], stored (String.ofList (withLineFeeds contents.toList))) ∧
      (shell.runScript (insertingText contents) = shell.runBatch (insertingText contents) ↔
        ¬HasReturnFeed contents.toList) := by
  intro stored
  have hbatch : shell.runBatch (insertingText contents) = ([.status "INSERT 1"], stored contents) := by
    rw [runBatch_of_scans shell (scans_insertingText contents) (parseKinds_insertingText contents),
      perform_insertRows htable hcolumns]
  have hscript : shell.runScript (insertingText contents) =
      ([.status "INSERT 1"], stored (String.ofList (withLineFeeds contents.toList))) := by
    have hscans := scans_insertingText (String.ofList (withLineFeeds contents.toList))
    rw [← withLineFeeds_insertingText] at hscans
    rw [runScript_of_scans shell hscans (parseKinds_insertingText _), perform_insertRows htable hcolumns]
  refine ⟨hbatch, hscript, ?_⟩
  rw [hbatch, hscript, ← withLineFeeds_eq_self_iff]
  constructor
  · intro hsame
    have hcatalog := congrArg Shell.catalog (Prod.mk.inj hsame).2
    have hfound := congrArg (Catalog.table? · "t") hcatalog
    simp only [stored, withCatalog, Catalog.table?_put_self] at hfound
    have hcontents : String.ofList (withLineFeeds contents.toList) = contents := by simpa using hfound
    simpa using congrArg String.toList hcontents
  · intro hself
    rw [hself, String.ofList_toList]

/-- Quotes, a semicolon and a point at the ends of lines, a carriage return on its own, and two in front of a line
feed, of which one is kept. -/
theorem script_stores_text_with_line_feeds_of_three_lines :
    let table : Table := ⟨[⟨"x", .text, false⟩], [[.text "old"]]⟩
    let shell : Shell := ⟨Catalog.empty.put "t" table, true⟩
    let contents := "it's;\r\n.exit\r'--\n\r\r\n"
    shell.catalog.table? "t" = some table ∧ table.columns = [⟨"x", .text, false⟩] ∧
      insertingText contents = "INSERT INTO t VALUES ('it''s;\r\n.exit\r''--\n\r\r\n');" ∧
      shell.runScript (insertingText contents) = ([.status "INSERT 1"], shell.withCatalog
        (shell.catalog.put "t" ⟨table.columns, [[.text "old"], [.text "it's;\n.exit\r'--\n\r\n"]]⟩)) := by
  intro table shell contents
  have htable : shell.catalog.table? "t" = some table := rfl
  have hstored : String.ofList (withLineFeeds contents.toList) = "it's;\n.exit\r'--\n\r\n" := by decide +kernel
  obtain ⟨-, hscript, -⟩ := script_stores_text_with_line_feeds htable rfl contents
  rw [hstored] at hscript
  exact ⟨htable, rfl, by decide +kernel, hscript⟩

/-- A carriage return in front of a line feed does not get into the table. -/
theorem carriage_return_lost_in_script :
    let shell : Shell := ⟨Catalog.empty.put "t" ⟨[⟨"x", .text, true⟩], []⟩, false⟩
    let rows (result : List Output × Shell) : Option (List Row) := (result.2.catalog.table? "t").map (·.rows)
    rows (shell.runBatch (insertingText "a\r\nb")) = some [[.text "a\r\nb"]] ∧
      rows (shell.runScript (insertingText "a\r\nb")) = some [[.text "a\nb"]] := by
  decide +kernel

end Shell

end SqlShell
