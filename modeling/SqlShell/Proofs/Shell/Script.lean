import SqlShell.Proofs.Execution.Relocation
import SqlShell.Proofs.Parsing.Gap
import SqlShell.Proofs.Parsing.Kinds
import SqlShell.Proofs.Shell.Ending
import SqlShell.Proofs.Text.Lines
/-!
# Scripts and batches

A script is run line by line, a batch at once. For a text that can be parsed the two agree. While the script runs, the
lines collected so far and the lines that are left make up a text that scans as some kinds, and these kinds parse to the
statements that are still to be executed (`Shell.runLines_eq_perform`). A line keeps this invariant in one of three
ways: it is blank and dropped, it is collected, or it ends a piece of the text that ends with a semicolon token. No line
is a command then, since no statement starts with a point.
-/

namespace SqlShell

open Text Parsing

variable {c : Char} {text rest run : List Char} {kinds : List Token.Kind}

/-! ### Blanks and points -/

theorem Scans.of_blanks (hrun : ∀ c ∈ run, isBlank c = true) (h : Scans false (run ++ rest) kinds) :
    Scans false rest kinds :=
  (scans_append_gap (isGap_of_blanks hrun)).1 h

theorem Scans.of_blank (hc : isBlank c = true) (h : Scans false (c :: rest) kinds) : Scans false rest kinds :=
  (scans_append_gap (.blank hc .nil)).1 h

theorem scans_of_blanks (hrun : ∀ c ∈ run, isBlank c = true) : Scans false run [] := by
  rw [← List.append_nil run]
  exact (scans_append_gap (isGap_of_blanks hrun)).2 .finish

theorem Scans.eq_nil_of_blanks (hrun : ∀ c ∈ run, isBlank c = true) (h : Scans false run kinds) : kinds = [] := by
  rw [← List.append_nil run] at h
  exact (h.of_blanks hrun).eq_nil_of_nil

/-- A line feed may be added at the end of a text. -/
theorem Scans.append_newline {inComment : Bool} (h : Scans inComment text kinds) :
    Scans inComment (text ++ ['\n']) kinds := by
  induction h with
  | @finish inComment =>
    cases inComment with
    | false => exact .blank (by decide) .finish
    | true => exact .comment .finish
  | comment _ ih => exact .comment ih
  | blank hc _ ih => exact .blank hc ih
  | opening _ ih => exact .opening ih
  | @token kind spelling rest kinds hspelled hgap _ ih =>
    have hother : Breaks (rest ++ ['\n']) ∨ (rest ++ ['\n']).head? = rest.head? := by
      cases rest with
      | nil => exact .inl (by simp [Breaks, breakers])
      | cons d rest => exact .inr rfl
    have hgap' : opensGap (spelling ++ (rest ++ ['\n'])) = false := by
      cases rest with
      | nil =>
        rcases spelling with _ | ⟨d, _ | ⟨e, spelling⟩⟩
        · exact absurd rfl hspelled.ne_nil
        · simp only [List.singleton_append, List.nil_append, opensGap, Bool.or_eq_false_iff] at hgap ⊢
          exact ⟨hgap.1, by simp⟩
        · exact hgap
      | cons d rest => exact opensGap_exchange hspelled.ne_nil hgap (.inr rfl)
    rw [List.append_assoc]
    exact .token (hspelled.exchange hother) hgap' ih

/-- A token that starts with a point is a number. -/
theorem Token.Kind.Spelled.numeral_of_point {kind : Token.Kind} {spelling : List Char}
    (h : kind.Spelled ('.' :: spelling) rest) : ∃ text, kind = .numeral text := by
  generalize hpoint : '.' :: spelling = written at h
  cases h with
  | word hrun => exact absurd (hrun '.' (by simp [← hpoint])) (by decide)
  | symbol s => cases s <;> simp [Symbol.spelling] at hpoint
  | string contents => simp [Quoted.encode] at hpoint
  | quotedName name hdelimiter =>
    obtain ⟨rfl, -⟩ := List.cons.inj hpoint
    simp at hdelimiter
  | bareName hfirst =>
    obtain ⟨rfl, -⟩ := List.cons.inj hpoint
    exact absurd hfirst (by decide)
  | numeral => exact ⟨_, rfl⟩

/-- No batch starts with a point. -/
theorem not_scans_of_point {statements : List Statement} (h : Scans false ('.' :: rest) kinds) :
    parseKinds kinds ≠ .ok statements := by
  intro hparse
  obtain ⟨⟨kind, spelling, after⟩, more, hread, rfl, -⟩ := h.read? (by simp) (by simp [opensGap]; decide)
  have hspelled := Lexeme.spelled_of_read? hread
  obtain ⟨htext, hne⟩ := Lexeme.read?_tiles hread
  obtain ⟨first, tail, rfl⟩ := List.exists_cons_of_ne_nil hne
  obtain ⟨rfl, -⟩ := List.cons.inj htext
  obtain ⟨number, rfl⟩ := hspelled.numeral_of_point
  have hbatch := (parseTokens_eq_ok.1 hparse).2
  have hstatement := statement_read_cons nestingLimit (Token.ofKind (.numeral number)) (more.map Token.ofKind)
  rw [List.map_cons, readBatch_of_error hstatement] at hbatch
  simp at hbatch

namespace Shell

/-! ### Executing statements -/

/-- What a batch of statements leads to. -/
def perform (shell : Shell) (statements : List Statement) : List Output × Shell :=
  let (outputs, catalog) := runStatements shell.stopOnError shell.catalog statements
  (outputs, shell.withCatalog catalog)

theorem perform_unplaced (shell : Shell) (statements : List Statement) :
    shell.perform (statements.map Statement.unplaced) = shell.perform statements := by
  have hrun := runStatements_relocate (fun _ => Location.start) shell.stopOnError shell.catalog statements
  rw [perform, perform]
  exact congrArg (fun result : List Output × Catalog => (result.1, shell.withCatalog result.2)) hrun

theorem runBatch_of_parse {shell : Shell} {source : String} {statements : List Statement}
    (h : parse source = .ok statements) : shell.runBatch source = shell.perform statements := by
  rw [runBatch, h]
  rfl

theorem runBatch_of_scans (shell : Shell) {source : String} {statements : List Statement}
    (h : Scans false source.toList kinds) (hkinds : parseKinds kinds = .ok statements) :
    shell.runBatch source = shell.perform statements := by
  obtain ⟨found, hparse, rfl⟩ := parse_of_scans h hkinds
  rw [runBatch_of_parse hparse, perform_unplaced]

theorem runStatements_append (stopOnError : Bool) (catalog : Catalog) (first second : List Statement) :
    runStatements stopOnError catalog (first ++ second) =
      let (outputs, next) := runStatements stopOnError catalog first
      if outputs.any Output.isFailure ∧ stopOnError then (outputs, next)
      else
        let (more, last) := runStatements stopOnError next second
        (outputs ++ more, last) := by
  induction first generalizing catalog with
  | nil => simp [runStatements]
  | cons s first ih =>
    simp only [List.cons_append, runStatements_cons]
    by_cases hstop : (Output.ofResult (catalog.step s).1).isFailure = true ∧ stopOnError = true
    · simp [hstop]
    · rw [if_neg hstop, if_neg hstop, ih]
      generalize Output.ofResult (catalog.step s).1 = output at hstop ⊢
      obtain ⟨outputs, next⟩ := runStatements stopOnError (catalog.step s).2 first
      simp only [List.any_cons, Bool.or_eq_true]
      by_cases hany : outputs.any Output.isFailure = true ∧ stopOnError = true
      · rw [if_pos hany, if_pos ⟨.inr hany.1, hany.2⟩]
      · have hnone : ¬((output.isFailure = true ∨ outputs.any Output.isFailure = true) ∧ stopOnError = true) := by
          rintro ⟨hfailure | hfailure, htrue⟩
          · exact hstop ⟨hfailure, htrue⟩
          · exact hany ⟨hfailure, htrue⟩
        rw [if_neg hany, if_neg hnone]
        rfl

/-- The shell executes all statements, or those up to a failure: as many as it shows outputs of. -/
theorem catalog_runStatements (stopOnError : Bool) (catalog : Catalog) (statements : List Statement) :
    (runStatements stopOnError catalog statements).2 =
      (catalog.run (statements.take (runStatements stopOnError catalog statements).1.length)).2 := by
  induction statements generalizing catalog with
  | nil => rfl
  | cons s statements ih =>
    simp only [runStatements_cons]
    split
    · rfl
    · rw [List.length_cons, List.take_succ_cons]
      exact ih (catalog.step s).2

/-- A batch may be executed in two parts, of which the second one follows unless the first one is the end. -/
theorem perform_append (shell : Shell) (first second : List Statement) :
    shell.perform (first ++ second) =
      let (outputs, next) := shell.perform first
      if outputs.any Output.isFailure ∧ shell.stopOnError then (outputs, next)
      else
        let (more, last) := next.perform second
        (outputs ++ more, last) := by
  have hrun := runStatements_append shell.stopOnError shell.catalog first second
  cases hfirst : runStatements shell.stopOnError shell.catalog first with
  | mk outputs next =>
    have hperform : shell.perform first = (outputs, shell.withCatalog next) := by rw [perform, hfirst]
    rw [hfirst] at hrun
    rw [hperform, perform, hrun]
    by_cases hstop : outputs.any Output.isFailure = true ∧ shell.stopOnError = true
    · simp only [if_pos hstop]
    · simp only [if_neg hstop]
      rfl

/-! ### Lines -/

theorem trimStart_of_word {line tail : List Char} (h : word line = c :: tail) :
    ∃ others, trimStart line = c :: others := by
  rw [word] at h
  cases htrim : trimStart line with
  | nil => simp [htrim] at h
  | cons d others =>
    rw [htrim, List.takeWhile_cons] at h
    split at h
    · obtain ⟨rfl, -⟩ := List.cons.inj h
      exact ⟨others, rfl⟩
    · simp at h

/-- A command starts with a point. -/
theorem exists_point_of_ofLine? {line : String} {command : Command} (h : Command.ofLine? line = some command) :
    ∃ run others, (∀ c ∈ run, isBlank c = true) ∧ line.toList = run ++ '.' :: others := by
  rw [Command.ofLine?] at h
  split at h
  · next tail hword =>
    obtain ⟨others, hothers⟩ := trimStart_of_word hword
    refine ⟨line.toList.takeWhile isBlank, others, fun _ hc => of_mem_takeWhile hc, ?_⟩
    rw [← hothers]
    exact List.takeWhile_append_dropWhile.symm
  · simp at h

/-- Where a batch begins, no line is a command. -/
theorem command?_eq_none {pending : PendingBatch} {line : List Char} {statements : List Statement}
    (h : pending.isEmpty = true → Scans false (line ++ rest) kinds) (hparse : parseKinds kinds = .ok statements) :
    command? pending (String.ofList line) = none := by
  rw [command?]
  split
  · next hempty =>
    cases hcommand : Command.ofLine? (String.ofList line) with
    | none => rfl
    | some command =>
      obtain ⟨run, others, hrun, hline⟩ := exists_point_of_ofLine? hcommand
      have hscans := h hempty
      rw [← String.toList_ofList (l := line), hline, List.append_assoc] at hscans
      exact absurd hparse (not_scans_of_point (hscans.of_blanks hrun))
  · rfl

/-- A line is dropped, or it ends a batch, or it is collected. -/
theorem push_cases (pending : PendingBatch) (line : List Char) :
    (pending.isEmpty = true ∧ (∀ c ∈ line, isBlank c = true) ∧ pending.push (String.ofList line) = (none, pending)) ∨
      (PendingBatch.scan pending.quote none line = (none, some ';') ∧
        pending.push (String.ofList line) = (some (pending.text ++ String.ofList line ++ "\n"), .empty)) ∨
      pending.push (String.ofList line) =
        (none, ⟨pending.text ++ String.ofList line ++ "\n", (PendingBatch.scan pending.quote none line).1⟩) := by
  rw [PendingBatch.push, String.toList_ofList]
  split
  · next hblank => exact .inl ⟨hblank.1, List.all_eq_true.1 hblank.2, rfl⟩
  · split
    · next hscan => exact .inr (.inl ⟨hscan, rfl⟩)
    · next quote _ _ hscan => exact .inr (.inr (by rw [hscan]))

/-- Running the lines that are left performs the statements that the lines collected and left stand for. -/
theorem runLines_eq_perform {shell : Shell} {pending : PendingBatch} {lines : List (List Char)}
    {statements : List Statement} (hlines : ∀ line ∈ lines, ∀ c ∈ line, c ≠ '\n') (hcollected : pending.Collected)
    (hscans : Scans false (pending.text.toList ++ unlines lines) kinds) (hparse : parseKinds kinds = .ok statements) :
    shell.runLines pending (lines.map String.ofList) = shell.perform statements := by
  induction lines generalizing shell pending kinds statements with
  | nil =>
    rw [unlines_nil, List.append_nil] at hscans
    rw [List.map_nil, runLines]
    split
    · next hblank =>
      obtain rfl := hscans.eq_nil_of_blanks (List.all_eq_true.1 hblank)
      obtain rfl := Except.ok.inj (parseKinds_nil.symm.trans hparse)
      rfl
    · exact runBatch_of_scans shell hscans hparse
  | cons line lines ih =>
    obtain ⟨hline, hlines⟩ := List.forall_mem_cons.1 hlines
    rw [unlines_cons] at hscans
    have hempty : pending.isEmpty = true → pending.text.toList = [] := by
      intro hempty
      simpa [PendingBatch.isEmpty] using hempty
    have hfirst : pending.isEmpty = true → Scans false (line ++ '\n' :: unlines lines) kinds := by
      intro hnone
      rwa [hempty hnone, List.nil_append] at hscans
    have hcommand := command?_eq_none hfirst hparse
    have htext := pending.toList_text_append_line line
    have hscans' : Scans false (pending.text.toList ++ (line ++ ['\n']) ++ unlines lines) kinds := by
      simpa using hscans
    rw [List.map_cons, runLines, hcommand]
    rcases push_cases pending line with ⟨hnone, hblank, hpush⟩ | ⟨hscan, hpush⟩ | hpush
    · have hrest := ((hfirst hnone).of_blanks hblank).of_blank (by decide)
      simp only [hpush]
      exact ih hlines hcollected (by rwa [hempty hnone]) hparse
    · -- the line ends a batch, which is a piece of the text of its own
      have hmode : Mode.sweep .code (pending.text.toList ++ (line ++ ['\n'])) = .code := by
        rw [hcollected.sweep_line hline, hscan]
        rfl
      obtain ⟨before, behind, rfl, hbefore, hbehind⟩ := hscans'.split rfl (.inr (.inl (by simp))) hmode
      obtain ⟨front, rfl⟩ := hbefore.endsWithSemicolon hcollected hline hscan
      rw [List.append_assoc] at hparse
      obtain ⟨first, second, hfirst, hsecond, rfl⟩ := parseKinds_append hparse
      have hbatch := runBatch_of_scans shell (htext ▸ hbefore) hfirst
      have hnext (next : Shell) : next.runLines .empty (lines.map String.ofList) = next.perform second :=
        ih hlines PendingBatch.collected_empty hbehind hsecond
      simp only [hpush, hbatch, perform_unplaced, hnext]
      rw [perform_append]
    · simp only [hpush]
      exact ih hlines (hcollected.append_line hline) (by rwa [htext]) hparse

/-- A text that can be parsed gives the same as a script and as a batch. -/
theorem runScript_eq_runBatch (shell : Shell) {source : String} (hreturn : ¬HasReturnFeed source.toList)
    (hparse : (parse source).isOk = true) : shell.runScript source = shell.runBatch source := by
  cases hstatements : parse source with
  | error e => simp [hstatements, Except.isOk, Except.toBool] at hparse
  | ok statements =>
    obtain ⟨kinds, hscans, hkinds⟩ := scans_of_parse hstatements
    have hlines : Scans false (unlines (lines source.toList)) kinds := by
      rcases unlines_lines hreturn with htext | htext
      · rwa [htext]
      · rw [htext]
        exact hscans.append_newline
    have hperform : shell.runLines .empty ((lines source.toList).map String.ofList) =
        shell.perform (statements.map Statement.unplaced) :=
      runLines_eq_perform (ne_newline_of_mem_lines _) PendingBatch.collected_empty hlines hkinds
    rw [runScript, hperform, perform_unplaced, runBatch_of_parse hstatements]

/-- A comment, a blank line, a name over two lines of which the second starts with a point, and no last semicolon. -/
theorem runScript_eq_runBatch_of_point_in_name :
    ¬HasReturnFeed "DROP TABLE a; -- no;\n\nDROP TABLE \"x\n.y\"".toList ∧
      (parse "DROP TABLE a; -- no;\n\nDROP TABLE \"x\n.y\"").isOk = true ∧
      (Shell.new true).runScript "DROP TABLE a; -- no;\n\nDROP TABLE \"x\n.y\"" =
        (Shell.new true).runBatch "DROP TABLE a; -- no;\n\nDROP TABLE \"x\n.y\"" := by
  have hreturn : ¬HasReturnFeed "DROP TABLE a; -- no;\n\nDROP TABLE \"x\n.y\"".toList := by decide +kernel
  have hparse : (parse "DROP TABLE a; -- no;\n\nDROP TABLE \"x\n.y\"").isOk = true := by decide +kernel
  exact ⟨hreturn, hparse, runScript_eq_runBatch (Shell.new true) hreturn hparse⟩

end Shell

end SqlShell
