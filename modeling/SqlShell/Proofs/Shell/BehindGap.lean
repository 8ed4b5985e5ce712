import SqlShell.Proofs.Parsing.Gap
import SqlShell.Proofs.Shell.Collecting
import SqlShell.Proofs.Shell.Moments
/-!
# Batches behind a gap

A gap of whole lines in front of a batch moves its tokens down, and what the batch does does not depend on where they
stand. So a script that has collected such a gap in front of its lines (`BehindGap`) shows the same up to the end of the
batch, but for the lines of parse errors, and behind the batch the gap is gone (`Shell.runLines_behind_gap`).
-/

namespace SqlShell

open Text

variable {gap : List Char}

/-! ### Outputs -/

namespace Output

/-- The output with the location of a parse error moved. -/
def relocate (f : Location → Location) : Output → Output
  | .error (.parse e) => .error (.parse (e.relocate f))
  | output => output

/-- The output without the line of a parse error. -/
def withoutLine (output : Output) : Output :=
  output.relocate fun l => ⟨0, l.column⟩

/-- The output tells that a text is not SQL. -/
def isParseError : Output → Bool
  | .error (.parse _) => true
  | _ => false

theorem isFailure_relocate (f : Location → Location) (output : Output) :
    (output.relocate f).isFailure = output.isFailure := by
  cases output with
  | error e => cases e <;> rfl
  | _ => rfl

theorem isParseError_withoutLine (output : Output) : output.withoutLine.isParseError = output.isParseError := by
  cases output with
  | error e => cases e <;> rfl
  | _ => rfl

theorem withoutLine_down (count : Nat) (output : Output) :
    (output.relocate (Location.down count)).withoutLine = output.withoutLine := by
  cases output with
  | error e => cases e <;> rfl
  | _ => rfl

theorem relocate_ofResult (f : Location → Location) (result : Except StatementError Outcome) :
    (ofResult result).relocate f = ofResult result := by
  cases result with
  | error e => rfl
  | ok outcome => cases outcome <;> rfl

end Output

/-! ### Lines that are collected -/

namespace PendingBatch

theorem scan_append_blanks {run : List Char} (hrun : ∀ c ∈ run, isBlank c = true) (last : Option Char)
    (rest : List Char) : scan none last (run ++ rest) = scan none last rest := by
  induction run with
  | nil => rfl
  | cons c run ih =>
    obtain ⟨hc, hrun⟩ := List.forall_mem_cons.1 hrun
    obtain ⟨hdelimiter, hminus⟩ := Mode.isPlain_iff.1 (Mode.isPlain_of isBlank (by decide) hc)
    rw [List.cons_append, scan, if_neg (by simp [hdelimiter]), if_neg (by simp [hminus]), if_pos hc]
    exact ih hrun

theorem isEmpty_eq_false {pending : PendingBatch} (h : pending.text.toList ≠ []) : pending.isEmpty = false := by
  simpa [isEmpty] using h

/-- A line that is not dropped is collected, or it ends a batch. -/
theorem push_of_kept {pending : PendingBatch} {line : String}
    (h : ¬(pending.isEmpty = true ∧ line.toList.all isBlank = true)) :
    pending.push line =
      if scan pending.quote none line.toList = (none, some ';') then (some (pending.text ++ line ++ "\n"), empty)
      else (none, ⟨pending.text ++ line ++ "\n", (scan pending.quote none line.toList).1⟩) := by
  rw [push_eq, if_neg h, textWith, if_neg h]

end PendingBatch

theorem Shell.command?_of_collected {pending : PendingBatch} {line : String} (h : pending.isEmpty = false) :
    Shell.command? pending line = none := by
  rw [command?, h]
  rfl

/-! ### Batches behind a gap -/

/-- The second batch holds the lines of the first one behind a gap of whole lines. -/
structure BehindGap (gap : List Char) (pending other : PendingBatch) : Prop where
  isGap : IsGap false gap
  whole : gap.getLast? = some '\n'
  text : other.text.toList = gap ++ pending.text.toList
  quote : other.quote = pending.quote

namespace BehindGap

variable {pending other : PendingBatch} {line : String}

theorem isEmpty (h : BehindGap gap pending other) : other.isEmpty = false := by
  refine PendingBatch.isEmpty_eq_false ?_
  rw [h.text]
  intro hnil
  have hwhole := h.whole
  rw [(List.append_eq_nil_iff.1 hnil).1] at hwhole
  simp at hwhole

theorem kept (h : BehindGap gap pending other) : ¬(other.isEmpty = true ∧ line.toList.all isBlank = true) := by
  rw [h.isEmpty]
  simp

theorem command? (h : BehindGap gap pending other) : Shell.command? other line = none :=
  Shell.command?_of_collected h.isEmpty

theorem append_line (h : BehindGap gap pending other) (line : String) (quote : Option Char) :
    BehindGap gap ⟨pending.text ++ line ++ "\n", quote⟩ ⟨other.text ++ line ++ "\n", quote⟩ where
  isGap := h.isGap
  whole := h.whole
  text := by simp [h.text]
  quote := rfl

/-- A blank line makes the gap longer. -/
theorem blank (h : BehindGap gap .empty other) (hline : line.toList.all isBlank = true) :
    ∃ next, other.push line = (none, next) ∧ BehindGap (gap ++ (line.toList ++ ['\n'])) .empty next := by
  have hblanks := List.all_eq_true.1 hline
  have hscan : PendingBatch.scan other.quote none line.toList = (none, none) := by
    have happend := PendingBatch.scan_append_blanks hblanks none []
    rw [List.append_nil] at happend
    rw [h.quote]
    exact happend
  refine ⟨⟨other.text ++ line ++ "\n", none⟩, by rw [PendingBatch.push_of_kept h.kept, hscan]; rfl, ?_⟩
  refine ⟨isGap_append h.isGap rfl (isGap_append (isGap_of_blanks hblanks) rfl (.blank (by decide) .nil)), by simp, ?_, rfl⟩
  simp [h.text, PendingBatch.empty]

end BehindGap

namespace Shell

/-! ### Runs behind a gap -/

/-- A run without the lines of parse errors. -/
def withoutLines (run : List Output × Shell) : List Output × Shell :=
  (run.1.map Output.withoutLine, run.2)

theorem withoutLines_shownThen (moments : List Moment) (run run' : List Output × Shell) :
    withoutLines (shownThen moments run) = withoutLines (shownThen moments run') ↔
      withoutLines run = withoutLines run' := by
  simp [withoutLines, shownThen]

theorem runStatements_relocate_outputs (f : Location → Location) (stopOnError : Bool) (catalog : Catalog)
    (statements : List Statement) :
    (runStatements stopOnError catalog statements).1.map (Output.relocate f) =
      (runStatements stopOnError catalog statements).1 := by
  induction statements generalizing catalog with
  | nil => rfl
  | cons s statements ih =>
    simp only [runStatements_cons]
    split
    · rw [List.map_cons, Output.relocate_ofResult, List.map_nil]
    · rw [List.map_cons, Output.relocate_ofResult, ih]

/-- A batch behind a gap does the same, but its parse errors are further down. -/
theorem runBatch_append_gap (shell : Shell) {source other : String} (hgap : IsGap false gap)
    (hwhole : gap.getLast? = some '\n') (h : other.toList = gap ++ source.toList) :
    ∃ count, shell.runBatch other =
      ((shell.runBatch source).1.map (Output.relocate (Location.down count)), (shell.runBatch source).2) := by
  obtain ⟨count, hparse⟩ := parse_append_gap hgap hwhole h
  refine ⟨count, ?_⟩
  rw [runBatch, runBatch, hparse]
  cases parse source with
  | error e => rfl
  | ok statements => simp only [runStatements_relocate, runStatements_relocate_outputs]

variable {shell : Shell} {pending other : PendingBatch} {line : String} {lines : List String}

theorem withoutLines_runBatch (h : BehindGap gap pending other) (shell : Shell) :
    withoutLines (shell.runBatch other.text) = withoutLines (shell.runBatch pending.text) := by
  obtain ⟨count, hbatch⟩ := shell.runBatch_append_gap h.isGap h.whole h.text
  simp [hbatch, withoutLines, Output.withoutLine_down]

/-- One line that is no command: the gap stays in front of what is collected, or is gone with the batch. -/
theorem runLines_cons_behind_gap (h : BehindGap gap pending other)
    (hkept : ¬(pending.isEmpty = true ∧ line.toList.all isBlank = true)) (hcommand : command? pending line = none)
    (hlater : ∀ next next', BehindGap gap next next' → next.isEmpty = false →
      withoutLines (shell.runLines next' lines) = withoutLines (shell.runLines next lines)) :
    withoutLines (shell.runLines other (line :: lines)) = withoutLines (shell.runLines pending (line :: lines)) := by
  rw [runLines, runLines, hcommand, h.command?]
  simp only [PendingBatch.push_of_kept h.kept, PendingBatch.push_of_kept hkept, h.quote]
  have hnext := h.append_line line (PendingBatch.scan pending.quote none line.toList).1
  -- both lines are scanned with the same quote, so they end a batch together
  by_cases hends : PendingBatch.scan pending.quote none line.toList = (none, some ';')
  · obtain ⟨count, hbatch⟩ := shell.runBatch_append_gap hnext.isGap hnext.whole hnext.text
    have hany : ((shell.runBatch (pending.text ++ line ++ "\n")).1.map (Output.relocate (Location.down count))).any
        Output.isFailure = (shell.runBatch (pending.text ++ line ++ "\n")).1.any Output.isFailure := by
      rw [List.any_map]
      exact congrArg _ (funext (Output.isFailure_relocate _))
    simp only [if_pos hends, hbatch, hany]
    split
    · simp [withoutLines, Output.withoutLine_down]
    · simp [withoutLines, Output.withoutLine_down]
  · simp only [if_neg hends]
    exact hlater _ _ hnext (by simp [PendingBatch.isEmpty])

/-- While something is collected no line is a command. -/
theorem runLines_behind_gap (h : BehindGap gap pending other) (hcollected : pending.isEmpty = false)
    (lines : List String) :
    withoutLines (shell.runLines other lines) = withoutLines (shell.runLines pending lines) := by
  induction lines generalizing pending other with
  | nil =>
    rw [runLines_nil, runLines_nil]
    exact withoutLines_runBatch h shell
  | cons line lines ih =>
    exact runLines_cons_behind_gap h (by simp [hcollected]) (command?_of_collected hcollected)
      fun _ _ hnext hcollected => ih hnext hcollected

theorem runLines_behind_blank (h : BehindGap gap pending other) {next : PendingBatch}
    (hpush : other.push line = (none, next)) :
    shell.runLines other (line :: lines) = shell.runLines next lines := by
  rw [runLines, h.command?, hpush]

end Shell

end SqlShell
