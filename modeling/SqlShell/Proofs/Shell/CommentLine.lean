import SqlShell.Proofs.Shell.BehindGap
/-!
# Comment lines in scripts

A comment line between two batches is collected, and is a gap in front of the lines that are collected next. That makes
no difference to SQL. A command, however, is one only where nothing is collected: behind the comment line it is taken for
SQL, and since no statement starts with a point, it gives a parse error. So the comment line may be left out exactly if
no command comes next (`Shell.comment_line_transparent_iff`).
-/

namespace SqlShell

open Text

variable {gap : List Char}

/-- Blanks, and a comment up to the end of the line. -/
def IsCommentLine (line : List Char) : Prop :=
  '\n' ∉ line ∧ ∃ run body, (∀ c ∈ run, isBlank c = true) ∧ line = run ++ '-' :: '-' :: body

namespace IsCommentLine

variable {line : List Char}

/-- A carriage return at the end of a comment belongs to the line end. -/
theorem of_append_return (h : IsCommentLine (line ++ ['\r'])) : IsCommentLine line := by
  obtain ⟨hline, run, body, hrun, hbody⟩ := h
  refine ⟨fun hmem => hline (List.mem_append_left _ hmem), run, ?_⟩
  rcases List.eq_nil_or_concat body with rfl | ⟨front, c, rfl⟩
  · have hlast := congrArg List.getLast? hbody
    simp at hlast
  · refine ⟨front, hrun, ?_⟩
    have hconcat : line ++ ['\r'] = (run ++ '-' :: '-' :: front) ++ [c] := by simpa using hbody
    exact (List.append_inj' hconcat rfl).1

theorem isGap (h : IsCommentLine line) : IsGap false (line ++ ['\n']) := by
  obtain ⟨hline, run, body, hrun, rfl⟩ := h
  have hbody : '\n' ∉ body := by
    intro hmem
    exact hline (by simp [hmem])
  rw [List.append_assoc, List.cons_append, List.cons_append]
  exact isGap_append (isGap_of_blanks hrun) rfl (.comment hbody .nil)

theorem scan (h : IsCommentLine line) : PendingBatch.scan none none line = (none, none) := by
  obtain ⟨-, run, body, hrun, rfl⟩ := h
  rw [PendingBatch.scan_append_blanks hrun]
  rfl

theorem not_blank (h : IsCommentLine line) : ¬line.all isBlank = true := by
  obtain ⟨-, run, body, -, rfl⟩ := h
  have hminus : isBlank '-' = false := by decide
  simp [hminus]

theorem word (h : IsCommentLine line) : ∃ rest, Text.word line = '-' :: rest := by
  obtain ⟨-, run, body, hrun, rfl⟩ := h
  have hminus : isBlank '-' = false := by decide
  refine ⟨('-' :: body).takeWhile (!isBlank ·), ?_⟩
  rw [Text.word, trimStart, dropWhile_append hrun (stops_cons.2 hminus), List.takeWhile_cons_of_pos (by simp [hminus])]

/-- Where nothing is collected, a comment line is. -/
theorem push_empty {line : String} (h : IsCommentLine line.toList) :
    PendingBatch.empty.push line = (none, ⟨line ++ "\n", none⟩) := by
  have hscan : PendingBatch.scan PendingBatch.empty.quote none line.toList = (none, none) := h.scan
  rw [PendingBatch.push_of_kept fun hblank => h.not_blank hblank.2, hscan]
  simp [PendingBatch.empty]

theorem behindGap {line : String} (h : IsCommentLine line.toList) :
    BehindGap (line.toList ++ ['\n']) .empty ⟨line ++ "\n", none⟩ :=
  ⟨h.isGap, by simp, by simp [PendingBatch.empty], rfl⟩

end IsCommentLine

namespace Shell

/-- The next line that is not blank is a command. -/
def startsWithCommand (lines : List String) : Bool :=
  (lines.find? fun line => !line.toList.all isBlank).any fun line => (Command.ofLine? line).isSome

variable {shell : Shell} {pending other : PendingBatch} {line : String} {lines : List String}

/-! ### Lines that are not commands -/

theorem command?_empty (line : String) : command? .empty line = Command.ofLine? line := rfl

/-- Where nothing is collected, blank lines are dropped. -/
theorem runLines_blank (shell : Shell) (hline : line.toList.all isBlank = true) (lines : List String) :
    shell.runLines .empty (line :: lines) = shell.runLines .empty lines := by
  have hcommand : command? .empty line = none := by
    have htrim := dropWhile_append (List.all_eq_true.1 hline) stops_nil
    rw [List.append_nil] at htrim
    rw [command?_empty, Command.ofLine?, word, trimStart, htrim]
    rfl
  have hpush : PendingBatch.empty.push line = (none, .empty) := by
    rw [PendingBatch.push, if_pos ⟨rfl, hline⟩]
  rw [runLines, hcommand, hpush]

/-- Behind a gap alone, the lines do the same if no command comes first. -/
theorem runLines_behind_gap_of_no_command (h : BehindGap gap .empty other) (hlines : startsWithCommand lines = false) :
    withoutLines (shell.runLines other lines) = withoutLines (shell.runLines .empty lines) := by
  induction lines generalizing gap other with
  | nil =>
    rw [runLines_nil, runLines_nil]
    exact withoutLines_runBatch h shell
  | cons line lines ih =>
    by_cases hblank : line.toList.all isBlank = true
    · obtain ⟨next, hpush, hnext⟩ := h.blank hblank
      -- one run drops the line, and in the other one it makes the gap longer
      rw [runLines_blank shell hblank, runLines_behind_blank h hpush]
      exact ih hnext (by simpa [startsWithCommand, hblank] using hlines)
    · have hcommand : command? .empty line = none := by
        rw [command?_empty]
        simpa [startsWithCommand, hblank] using hlines
      exact runLines_cons_behind_gap h (fun hdropped => hblank hdropped.2) hcommand
        fun _ _ hnext hcollected => runLines_behind_gap hnext hcollected lines

/-! ### Commands -/

/-- The first output tells that a text is not SQL. -/
def failsToParse (run : List Output × Shell) : Bool :=
  run.1.head?.any Output.isParseError

theorem failsToParse_withoutLines (run : List Output × Shell) :
    failsToParse (withoutLines run) = failsToParse run := by
  obtain ⟨_ | ⟨output, outputs⟩, last⟩ := run
  · rfl
  · exact output.isParseError_withoutLine

theorem isParseError_of_runCommand {command : Command} {output : Output}
    (h : shell.runCommand command = .proceed output) : output.isParseError = false := by
  cases command with
  | schema table? =>
    cases table? with
    | none =>
      obtain rfl := Reaction.proceed.inj h
      rfl
    | some name =>
      rw [runCommand] at h
      split at h <;> (obtain rfl := Reaction.proceed.inj h; rfl)
  | exit => simp [runCommand] at h
  | _ =>
    obtain rfl := Reaction.proceed.inj h
    rfl

/-- Where nothing is collected, a command is carried out. -/
theorem failsToParse_of_command {command : Command} (h : Command.ofLine? line = some command) (lines : List String) :
    failsToParse (shell.runLines .empty (line :: lines)) = false := by
  rw [runLines, command?_empty, h]
  cases hreaction : shell.runCommand command with
  | exit => simp only [hreaction]; rfl
  | proceed output =>
    have houtput := isParseError_of_runCommand hreaction
    simp only [hreaction]
    split <;> exact houtput

/-- A batch that starts with a point is not SQL. -/
theorem runBatch_of_point (shell : Shell) {source : String} {rest : List Char} (hgap : IsGap false gap)
    (h : source.toList = gap ++ '.' :: rest) : ∃ e, shell.runBatch source = ([.error (.parse e)], shell) := by
  rw [runBatch]
  cases hparse : parse source with
  | error e => exact ⟨e, rfl⟩
  | ok statements =>
    obtain ⟨kinds, hscans, hkinds⟩ := scans_of_parse hparse
    rw [h] at hscans
    exact absurd hkinds (not_scans_of_point ((scans_append_gap hgap).1 hscans))

theorem failsToParse_cons_of_point {rest : List Char} (hgap : IsGap false gap)
    (hkept : ¬(pending.isEmpty = true ∧ line.toList.all isBlank = true)) (hcommand : command? pending line = none)
    (htext : (pending.text ++ line ++ "\n").toList = gap ++ '.' :: rest)
    (hlater : ∀ next : PendingBatch, next.text.toList = gap ++ '.' :: rest →
      failsToParse (shell.runLines next lines) = true) :
    failsToParse (shell.runLines pending (line :: lines)) = true := by
  rw [runLines, hcommand]
  simp only [PendingBatch.push_of_kept hkept]
  by_cases hends : PendingBatch.scan pending.quote none line.toList = (none, some ';')
  · obtain ⟨e, hbatch⟩ := shell.runBatch_of_point hgap htext
    simp only [if_pos hends, hbatch]
    split <;> rfl
  · simp only [if_neg hends]
    exact hlater _ htext

/-- What has been collected from a point on is not SQL, wherever it ends. -/
theorem failsToParse_of_point {rest : List Char} (hgap : IsGap false gap)
    (htext : pending.text.toList = gap ++ '.' :: rest) (lines : List String) :
    failsToParse (shell.runLines pending lines) = true := by
  induction lines generalizing pending rest with
  | nil =>
    obtain ⟨e, hbatch⟩ := shell.runBatch_of_point hgap htext
    rw [runLines_nil, hbatch]
    rfl
  | cons line lines ih =>
    have hcollected : pending.isEmpty = false := PendingBatch.isEmpty_eq_false (by simp [htext])
    have hnext : (pending.text ++ line ++ "\n").toList = gap ++ '.' :: (rest ++ (line.toList ++ ['\n'])) := by
      simp [htext]
    exact failsToParse_cons_of_point hgap (by simp [hcollected]) (command?_of_collected hcollected) hnext
      fun _ htext => ih htext

/-- Behind a gap alone, a command that comes first is taken for SQL. -/
theorem failsToParse_of_startsWithCommand (h : BehindGap gap .empty other) (hlines : startsWithCommand lines = true) :
    failsToParse (shell.runLines other lines) = true ∧ failsToParse (shell.runLines .empty lines) = false := by
  induction lines generalizing gap other with
  | nil => simp [startsWithCommand] at hlines
  | cons line lines ih =>
    by_cases hblank : line.toList.all isBlank = true
    · obtain ⟨next, hpush, hnext⟩ := h.blank hblank
      rw [runLines_blank shell hblank, runLines_behind_blank h hpush]
      exact ih hnext (by simpa [startsWithCommand, hblank] using hlines)
    · obtain ⟨command, hcommand⟩ : ∃ command, Command.ofLine? line = some command :=
        Option.isSome_iff_exists.1 (by simpa [startsWithCommand, hblank] using hlines)
      obtain ⟨run, rest, hrun, hline⟩ := exists_point_of_ofLine? hcommand
      have htext : (other.text ++ line ++ "\n").toList = (gap ++ run) ++ '.' :: (rest ++ ['\n']) := by
        simp [h.text, hline, PendingBatch.empty]
      have hgap := isGap_append h.isGap rfl (isGap_of_blanks hrun)
      exact ⟨failsToParse_cons_of_point hgap h.kept h.command? htext fun _ htext => failsToParse_of_point hgap htext lines,
        failsToParse_of_command hcommand lines⟩

/-! ### Scripts -/

theorem unlessFailed_snd {next : PendingBatch} {moments : List Moment}
    (h : next ∈ (shell.unlessFailed moments pending).2) : next = pending := by
  rw [unlessFailed, Option.mem_def] at h
  split at h
  · simp at h
  · exact (Option.some.inj h).symm

theorem readLine_collecting (h : pending.Collecting) (hline : ∀ c ∈ line.toList, c ≠ '\n') {next : PendingBatch}
    (hnext : next ∈ (shell.readLine pending line).2) : next.Collecting := by
  rw [readLine] at hnext
  split at hnext
  · split at hnext
    · simp at hnext
    · obtain rfl := unlessFailed_snd hnext
      exact h
  · have hpush := h.push hline
    generalize pending.push line = pushed at hnext hpush
    obtain ⟨_ | batch, after⟩ := pushed
    · obtain rfl := Option.some.inj hnext
      exact hpush
    · obtain rfl := unlessFailed_snd hnext
      exact hpush

/-- Over some lines of a script, what is collected keeps what it keeps over one of them. -/
theorem readLines_collecting (h : pending.Collecting) (hlines : ∀ line ∈ lines, ∀ c ∈ line.toList, c ≠ '\n')
    {next : PendingBatch} (hnext : next ∈ (shell.readLines pending lines).2) : next.Collecting := by
  induction lines generalizing shell pending with
  | nil =>
    obtain rfl := Option.some.inj hnext
    exact h
  | cons line lines ih =>
    obtain ⟨hline, hlines⟩ := List.forall_mem_cons.1 hlines
    rw [readLines] at hnext
    have hread (after : PendingBatch) (hafter : after ∈ (shell.readLine pending line).2) : after.Collecting :=
      readLine_collecting h hline hafter
    generalize shell.readLine pending line = part at hnext hread
    obtain ⟨moments, _ | after⟩ := part
    · simp at hnext
    · exact ih (hread after rfl) hlines hnext

/-- The script goes on behind these lines, and they leave nothing collected. -/
def idleAfter (shell : Shell) (source : String) : Bool :=
  (shell.readLines .empty (scriptLines source)).2.any PendingBatch.isEmpty

theorem ne_newline_of_mem_scriptLines (source : String) :
    ∀ line ∈ scriptLines source, ∀ c ∈ line.toList, c ≠ '\n' := by
  intro line hline
  obtain ⟨written, hwritten, rfl⟩ := List.mem_map.1 hline
  rw [String.toList_ofList]
  exact ne_newline_of_mem_lines source.toList written hwritten

/-- Nothing collected means that no quotes are open. -/
theorem readLines_of_idleAfter {source : String} (h : shell.idleAfter source = true) :
    ∃ moments, shell.readLines .empty (scriptLines source) = (moments, some .empty) := by
  have hcollecting (next : PendingBatch) (hnext : next ∈ (shell.readLines .empty (scriptLines source)).2) :
      next.Collecting :=
    readLines_collecting PendingBatch.collecting_empty (ne_newline_of_mem_scriptLines source) hnext
  rw [idleAfter] at h
  generalize shell.readLines .empty (scriptLines source) = part at h hcollecting
  obtain ⟨moments, _ | ⟨text, quote⟩⟩ := part
  · simp at h
  · obtain rfl : text = "" := by simpa [PendingBatch.isEmpty] using h
    obtain rfl : quote = none := (hcollecting _ rfl).toCollected.quote_eq_none rfl
    exact ⟨moments, rfl⟩

theorem scriptLines_append {front : String} (hfront : front.toList = [] ∨ front.toList.getLast? = some '\n')
    (behind : String) : scriptLines (front ++ behind) = scriptLines front ++ scriptLines behind := by
  rw [scriptLines, String.toList_append, lines_append hfront, List.map_append]
  rfl

theorem scriptLines_comment {line : String} (h : IsCommentLine line.toList) :
    ∃ written : String, IsCommentLine written.toList ∧ scriptLines (line ++ "\n") = [written] := by
  obtain ⟨written, hwritten, hlines⟩ := lines_line h.1
  refine ⟨String.ofList written, ?_, ?_⟩
  · rw [String.toList_ofList]
    rcases hwritten with hwritten | hwritten
    · exact hwritten ▸ h
    · exact IsCommentLine.of_append_return (hwritten ▸ h)
  · have htext : (line ++ "\n").toList = line.toList ++ ['\n'] := by simp
    rw [scriptLines, htext, hlines]
    rfl

/-- A comment line is collected where nothing else is. -/
theorem runLines_comment (h : IsCommentLine line.toList) (lines : List String) :
    shell.runLines .empty (line :: lines) = shell.runLines ⟨line ++ "\n", none⟩ lines := by
  have hcommand : command? .empty line = none := by
    obtain ⟨rest, hword⟩ := h.word
    rw [command?_empty, Command.ofLine?, hword]
    rfl
  rw [runLines, hcommand, h.push_empty]

/-- Between batches, a comment line may be left out exactly if no command comes next. Otherwise it makes the script take
the command for SQL. -/
theorem comment_line_transparent_iff (shell : Shell) {front line behind : String}
    (hfront : front.toList = [] ∨ front.toList.getLast? = some '\n') (hidle : shell.idleAfter front = true)
    (hline : IsCommentLine line.toList) :
    withoutLines (shell.runScript (front ++ line ++ "\n" ++ behind)) =
        withoutLines (shell.runScript (front ++ behind)) ↔
      startsWithCommand (scriptLines behind) = false := by
  obtain ⟨moments, hmoments⟩ := readLines_of_idleAfter hidle
  obtain ⟨written, hcomment, hwritten⟩ := scriptLines_comment hline
  have hlines : scriptLines (front ++ line ++ "\n" ++ behind) =
      scriptLines front ++ written :: scriptLines behind := by
    rw [String.append_assoc, String.append_assoc, scriptLines_append hfront, ← String.append_assoc,
      scriptLines_append (.inr (by simp)), hwritten]
    rfl
  have hgap := hcomment.behindGap
  rw [runScript_eq_runLines, runScript_eq_runLines, hlines, scriptLines_append hfront, runLines_append,
    runLines_append, hmoments]
  simp only [withoutLines_shownThen, runLines_comment hcomment]
  constructor
  · intro hsame
    cases hcommand : startsWithCommand (scriptLines behind) with
    | false => rfl
    | true =>
      -- only one of the runs goes on with a parse error
      obtain ⟨hfails, hruns⟩ := failsToParse_of_startsWithCommand hgap hcommand
      have hsame' := congrArg failsToParse hsame
      rw [failsToParse_withoutLines, failsToParse_withoutLines, hfails, hruns] at hsame'
      simp at hsame'
  · exact runLines_behind_gap_of_no_command hgap

/-- A comment line in front of a batch that is not SQL, and one in front of a command. -/
theorem comment_line_transparent_iff_of_note :
    (Shell.new false).idleAfter "DROP TABLE a;\n" = true ∧ IsCommentLine " -- note".toList ∧
      withoutLines ((Shell.new false).runScript ("DROP TABLE a;\n" ++ " -- note" ++ "\n" ++ "SELEC;\n")) =
        withoutLines ((Shell.new false).runScript ("DROP TABLE a;\n" ++ "SELEC;\n")) ∧
      withoutLines ((Shell.new false).runScript ("DROP TABLE a;\n" ++ " -- note" ++ "\n" ++ ".tables\n")) ≠
        withoutLines ((Shell.new false).runScript ("DROP TABLE a;\n" ++ ".tables\n")) := by
  have hfront : "DROP TABLE a;\n".toList = [] ∨ "DROP TABLE a;\n".toList.getLast? = some '\n' := by decide
  have hidle : (Shell.new false).idleAfter "DROP TABLE a;\n" = true := by decide +kernel
  have hcomment : IsCommentLine " -- note".toList := ⟨by decide, [' '], " note".toList, by simp; decide, by decide +kernel⟩
  have hsql : startsWithCommand (scriptLines "SELEC;\n") = false := by decide +kernel
  have htables : startsWithCommand (scriptLines ".tables\n") = true := by decide +kernel
  refine ⟨hidle, hcomment, (comment_line_transparent_iff _ hfront hidle hcomment).2 hsql, fun hsame => ?_⟩
  have hnone := (comment_line_transparent_iff _ hfront hidle hcomment).1 hsame
  rw [htables] at hnone
  simp at hnone

/-- Behind a comment line, the command that lists the tables is refused as SQL. -/
theorem tables_behind_comment_line :
    IsCommentLine "-- note".toList ∧
      ((Shell.new false).runScript "-- note\n.tables\n").1 = [.error (.parse ⟨⟨1, 0⟩, .lexeme⟩)] ∧
      ((Shell.new false).runScript ".tables\n").1 = [.message "(no tables)"] :=
  ⟨⟨by decide, [], " note".toList, by simp, by decide +kernel⟩, by decide +kernel, by decide +kernel⟩

end Shell

end SqlShell
