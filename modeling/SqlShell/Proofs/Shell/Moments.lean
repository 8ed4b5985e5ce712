import Mathlib.Data.List.Forall2
import SqlShell.Proofs.Execution.WellFormed
import SqlShell.Proofs.Shell.Script
/-!
# The course of a run

A run is known by what it shows and by the catalog that it leaves. Here it is taken apart into moments, one for each
output, which also hold the catalog at that time. A script is read line by line (`Shell.readLine`), and
`Shell.runLines_append` says that it may be read in two parts; so a run shows the outputs of its moments and leaves the
catalog of the last one (`Shell.runScript_eq_shown`). The moments of a run that stops at the first failure are those of a
run that does not, up to the first that is a failure: line for line, and so for whole scripts
(`Shell.stopOnError_only_cuts`). What a moment shows of a statement is what the statement reports (`Output.Shows`).
-/

namespace SqlShell

open Text

/-- An output, and the catalog when it is shown. -/
structure Moment where
  output : Output
  catalog : Catalog

/-- The output of the moment tells that something went wrong. -/
def Moment.isFailure (moment : Moment) : Bool :=
  moment.output.isFailure

/-! ### What is shown of a statement -/

namespace Output

/-- The output shows what a statement reports: a query the rows that it selects, another statement its tag and the number
of rows that it has changed, and a statement that has failed its error. -/
inductive Shows : Output → Except StatementError Outcome → Prop where
  | created : Shows (.status "CREATE TABLE") (.ok .created)
  | dropped : Shows (.status "DROP TABLE") (.ok .dropped)
  | inserted (count : Nat) : Shows (.status s!"INSERT {count}") (.ok (.inserted count))
  | selected (result : ResultTable) : Shows (.rows result) (.ok (.selected result))
  | deleted (count : Nat) : Shows (.status s!"DELETE {count}") (.ok (.deleted count))
  | updated (count : Nat) : Shows (.status s!"UPDATE {count}") (.ok (.updated count))
  | failed (e : StatementError) : Shows (.error (.statement e)) (.error e)

theorem shows_ofResult (result : Except StatementError Outcome) : (ofResult result).Shows result := by
  rcases result with e | outcome
  · exact .failed e
  · cases outcome with
    | created => exact .created
    | dropped => exact .dropped
    | inserted count => exact .inserted count
    | selected result => exact .selected result
    | deleted count => exact .deleted count
    | updated count => exact .updated count

end Output

/-! ### Cutting lists -/

section Cut

variable {α β : Type} {p : α → Bool} {first : List α}

/-- The items of a list up to the first that is of a kind, this one included. -/
def upToFirst (p : α → Bool) : List α → List α
  | [] => []
  | a :: as => if p a then [a] else a :: upToFirst p as

theorem upToFirst_eq_self (h : first.any p = false) : upToFirst p first = first := by
  induction first with
  | nil => rfl
  | cons a as ih =>
    obtain ⟨ha, has⟩ := Bool.or_eq_false_iff.1 h
    rw [upToFirst, ha, ih has]
    rfl

theorem upToFirst_append (p : α → Bool) (first second : List α) :
    upToFirst p (first ++ second) = if first.any p then upToFirst p first else first ++ upToFirst p second := by
  induction first with
  | nil => rfl
  | cons a as ih =>
    rw [List.cons_append, upToFirst, upToFirst, List.any_cons, ih]
    cases p a with
    | true => rfl
    | false => cases as.any p <;> rfl

theorem any_upToFirst (p : α → Bool) (as : List α) : (upToFirst p as).any p = as.any p := by
  induction as with
  | nil => rfl
  | cons a as ih =>
    rw [upToFirst, List.any_cons]
    cases ha : p a with
    | true => simp [ha]
    | false => simp [ha, ih]

theorem upToFirst_map (p : β → Bool) (f : α → β) (as : List α) :
    upToFirst p (as.map f) = (upToFirst (fun a => p (f a)) as).map f := by
  induction as with
  | nil => rfl
  | cons a as ih =>
    rw [List.map_cons, upToFirst, upToFirst, ih]
    cases p (f a) <;> rfl

theorem upToFirst_eq_take (p : α → Bool) (as : List α) : upToFirst p as = as.take (upToFirst p as).length := by
  induction as with
  | nil => rfl
  | cons a as ih =>
    rw [upToFirst]
    cases p a with
    | true => rfl
    | false => exact congrArg (a :: ·) ih

end Cut

/-! ### Moments -/

/-- The catalog of the last moment, or the one at the start. -/
def lastCatalog (start : Catalog) (moments : List Moment) : Catalog :=
  (moments.getLast?.map (·.catalog)).getD start

theorem lastCatalog_cons (start : Catalog) (moment : Moment) (moments : List Moment) :
    lastCatalog start (moment :: moments) = lastCatalog moment.catalog moments := by
  cases moments with
  | nil => rfl
  | cons second rest =>
    rw [lastCatalog, lastCatalog, List.getLast?_cons_cons, List.getLast?_cons]
    rfl

theorem lastCatalog_append (start : Catalog) (first second : List Moment) :
    lastCatalog start (first ++ second) = lastCatalog (lastCatalog start first) second := by
  induction first generalizing start with
  | nil => rfl
  | cons moment first ih => rw [List.cons_append, lastCatalog_cons, lastCatalog_cons, ih]

namespace Shell

/-- The shell behind some moments. -/
def behind (shell : Shell) (moments : List Moment) : Shell :=
  shell.withCatalog (lastCatalog shell.catalog moments)

/-- The run that has these moments. -/
def shown (shell : Shell) (moments : List Moment) : List Output × Shell :=
  (moments.map (·.output), shell.behind moments)

/-- The run that has these moments and then goes on. -/
def shownThen (moments : List Moment) (run : List Output × Shell) : List Output × Shell :=
  (moments.map (·.output) ++ run.1, run.2)

/-- The moments of statements that are executed in order. -/
def statementMoments (stopOnError : Bool) (catalog : Catalog) : List Statement → List Moment
  | [] => []
  | s :: statements =>
    match catalog.step s with
    | (.ok outcome, next) => ⟨.ofOutcome outcome, next⟩ :: statementMoments stopOnError next statements
    | (.error e, next) =>
      ⟨.error (.statement e), next⟩ :: if stopOnError then [] else statementMoments stopOnError next statements

/-- The moments of a batch. -/
def batchMoments (shell : Shell) (source : String) : List Moment :=
  match parse source with
  | .error e => [⟨.error (.parse e), shell.catalog⟩]
  | .ok statements => statementMoments shell.stopOnError shell.catalog statements

/-- Some moments, and the lines collected, unless the script ends there with a failure. -/
def unlessFailed (shell : Shell) (moments : List Moment) (pending : PendingBatch) :
    List Moment × Option PendingBatch :=
  (moments, if moments.any Moment.isFailure ∧ shell.stopOnError then none else some pending)

/-- The moments of one more line of a script, and the lines collected behind it, unless the script ends there. -/
def readLine (shell : Shell) (pending : PendingBatch) (line : String) : List Moment × Option PendingBatch :=
  match command? pending line with
  | some command =>
    match shell.runCommand command with
    | .exit => ([], none)
    | .proceed output => shell.unlessFailed [⟨output, shell.catalog⟩] pending
  | none =>
    match pending.push line with
    | (none, pending) => ([], some pending)
    | (some batch, pending) => shell.unlessFailed (shell.batchMoments batch) pending

/-- The moments of some more lines, and the lines collected behind them, unless the script ends before. -/
def readLines (shell : Shell) (pending : PendingBatch) : List String → List Moment × Option PendingBatch
  | [] => ([], some pending)
  | line :: lines =>
    match shell.readLine pending line with
    | (moments, none) => (moments, none)
    | (moments, some pending) =>
      let (more, rest) := (shell.behind moments).readLines pending lines
      (moments ++ more, rest)

/-- The lines of a script. -/
def scriptLines (source : String) : List String :=
  (lines source.toList).map String.ofList

/-- The moments of a script. The lines that are collected in the end are a batch. -/
def scriptMoments (shell : Shell) (source : String) : List Moment :=
  match shell.readLines .empty (scriptLines source) with
  | (moments, none) => moments
  | (moments, some pending) => moments ++ (shell.behind moments).batchMoments pending.text

variable {shell : Shell} {moments : List Moment} {pending : PendingBatch}

theorem behind_append (shell : Shell) (first second : List Moment) :
    shell.behind (first ++ second) = (shell.behind first).behind second :=
  congrArg shell.withCatalog (lastCatalog_append shell.catalog first second)

theorem shownThen_append (first second : List Moment) (run : List Output × Shell) :
    shownThen (first ++ second) run = shownThen first (shownThen second run) := by
  simp [shownThen]

theorem shownThen_shown (first second : List Moment) :
    shownThen first ((shell.behind first).shown second) = shell.shown (first ++ second) := by
  rw [shown, shown, shownThen, List.map_append, behind_append]

/-! ### Runs and their moments -/

theorem runStatements_eq_moments (stopOnError : Bool) (catalog : Catalog) (statements : List Statement) :
    runStatements stopOnError catalog statements =
      ((statementMoments stopOnError catalog statements).map (·.output),
        lastCatalog catalog (statementMoments stopOnError catalog statements)) := by
  induction statements generalizing catalog with
  | nil => rfl
  | cons s statements ih =>
    rw [runStatements, statementMoments]
    rcases catalog.step s with ⟨e | outcome, next⟩
    · cases stopOnError with
      | true => rfl
      | false => simp only [Bool.false_eq_true, if_false, List.map_cons, lastCatalog_cons, ih]
    · simp only [List.map_cons, lastCatalog_cons, ih]

theorem runBatch_eq_shown (shell : Shell) (source : String) :
    shell.runBatch source = shell.shown (shell.batchMoments source) := by
  rw [runBatch, batchMoments]
  cases parse source with
  | error e => rfl
  | ok statements =>
    simp only [runStatements_eq_moments]
    rfl

/-- A text of blanks is a batch without statements. -/
theorem runBatch_of_blanks (shell : Shell) {source : String} (h : source.toList.all isBlank = true) :
    shell.runBatch source = ([], shell) :=
  runBatch_of_scans shell (scans_of_blanks (List.all_eq_true.1 h)) parseKinds_nil

/-- The lines that are collected in the end are a batch, even if they are blank. -/
theorem runLines_nil (shell : Shell) (pending : PendingBatch) :
    shell.runLines pending [] = shell.runBatch pending.text := by
  rw [runLines]
  split
  · next hblank => exact (runBatch_of_blanks shell hblank).symm
  · rfl

/-- The step of a script: one line is read, and the others follow. -/
theorem runLines_cons (shell : Shell) (pending : PendingBatch) (line : String) (lines : List String) :
    shell.runLines pending (line :: lines) =
      match shell.readLine pending line with
      | (moments, none) => shell.shown moments
      | (moments, some pending) => shownThen moments ((shell.behind moments).runLines pending lines) := by
  rw [runLines, readLine]
  cases command? pending line with
  | some command =>
    simp only
    cases shell.runCommand command with
    | exit => rfl
    | proceed output =>
      simp only [unlessFailed, List.any_cons, List.any_nil, Bool.or_false, Moment.isFailure]
      by_cases hstop : output.isFailure = true ∧ shell.stopOnError = true
      · rw [if_pos hstop, if_pos hstop]
        rfl
      · rw [if_neg hstop, if_neg hstop]
        rfl
  | none =>
    cases pending.push line with
    | mk batch? pending =>
      cases batch? with
      | none => rfl
      | some batch =>
        have hany : (shell.runBatch batch).1.any Output.isFailure =
            (shell.batchMoments batch).any Moment.isFailure := by
          rw [runBatch_eq_shown, shown, List.any_map]
          rfl
        simp only [unlessFailed, hany]
        by_cases hstop : (shell.batchMoments batch).any Moment.isFailure = true ∧ shell.stopOnError = true
        · rw [if_pos hstop, if_pos hstop, runBatch_eq_shown]
        · rw [if_neg hstop, if_neg hstop, runBatch_eq_shown]
          rfl

/-- A script may be read in two parts. -/
theorem runLines_append (shell : Shell) (pending : PendingBatch) (first second : List String) :
    shell.runLines pending (first ++ second) =
      match shell.readLines pending first with
      | (moments, none) => shell.shown moments
      | (moments, some pending) => shownThen moments ((shell.behind moments).runLines pending second) := by
  induction first generalizing shell pending with
  | nil => rfl
  | cons line first ih =>
    rw [List.cons_append, runLines_cons, readLines]
    rcases shell.readLine pending line with ⟨moments, _ | next⟩
    · rfl
    · simp only [ih]
      rcases (shell.behind moments).readLines next first with ⟨more, _ | rest⟩
      · exact shownThen_shown moments more
      · simp only [shownThen_append, behind_append]

theorem runScript_eq_runLines (shell : Shell) (source : String) :
    shell.runScript source = shell.runLines .empty (scriptLines source) := rfl

/-- A script shows the outputs of its moments, and leaves the catalog of the last one. -/
theorem runScript_eq_shown (shell : Shell) (source : String) :
    shell.runScript source = shell.shown (shell.scriptMoments source) := by
  have happend := runLines_append shell .empty (scriptLines source) []
  rw [List.append_nil] at happend
  rw [runScript_eq_runLines, happend, scriptMoments]
  rcases shell.readLines .empty (scriptLines source) with ⟨moments, _ | rest⟩
  · rfl
  · simp only [runLines_nil, runBatch_eq_shown, shownThen_shown]

/-! ### Stopping at the first failure -/

variable (catalog : Catalog)

/-- A part of a script, cut behind its first failure. -/
def cutShort (part : List Moment × Option PendingBatch) : List Moment × Option PendingBatch :=
  (upToFirst Moment.isFailure part.1, if part.1.any Moment.isFailure then none else part.2)

theorem statementMoments_true (statements : List Statement) :
    statementMoments true catalog statements =
      upToFirst Moment.isFailure (statementMoments false catalog statements) := by
  induction statements generalizing catalog with
  | nil => rfl
  | cons s statements ih =>
    rw [statementMoments, statementMoments]
    rcases catalog.step s with ⟨e | outcome, next⟩
    · rfl
    · simp [upToFirst, Moment.isFailure, ih]

theorem batchMoments_true (source : String) :
    batchMoments ⟨catalog, true⟩ source = upToFirst Moment.isFailure (batchMoments ⟨catalog, false⟩ source) := by
  rw [batchMoments, batchMoments]
  cases parse source with
  | error e => rfl
  | ok statements => exact statementMoments_true catalog statements

theorem unlessFailed_true (moments : List Moment) (pending : PendingBatch) :
    unlessFailed ⟨catalog, true⟩ (upToFirst Moment.isFailure moments) pending =
      cutShort (unlessFailed ⟨catalog, false⟩ moments pending) := by
  simp only [unlessFailed, cutShort, any_upToFirst, and_true, Bool.false_eq_true, and_false, if_false]

/-- One line: the moments up to the first failure, and the end of the script if there is one. -/
theorem readLine_true (pending : PendingBatch) (line : String) :
    readLine ⟨catalog, true⟩ pending line = cutShort (readLine ⟨catalog, false⟩ pending line) := by
  rw [readLine, readLine]
  cases command? pending line with
  | some command =>
    have hcommand : runCommand ⟨catalog, true⟩ command = runCommand ⟨catalog, false⟩ command := by
      cases command <;> rfl
    simp only [hcommand]
    cases runCommand ⟨catalog, false⟩ command with
    | exit => rfl
    | proceed output =>
      have hone : upToFirst Moment.isFailure [⟨output, catalog⟩] = [⟨output, catalog⟩] := by
        rw [upToFirst]
        split <;> rfl
      simp only
      rw [← unlessFailed_true, hone]
  | none =>
    rcases pending.push line with ⟨_ | batch, next⟩
    · rfl
    · simp only [batchMoments_true, unlessFailed_true]

/-- Some lines: the same, since what follows a failure is not read. -/
theorem readLines_true (pending : PendingBatch) (lines : List String) :
    readLines ⟨catalog, true⟩ pending lines = cutShort (readLines ⟨catalog, false⟩ pending lines) := by
  induction lines generalizing catalog pending with
  | nil => rfl
  | cons line lines ih =>
    rw [readLines, readLines, readLine_true]
    rcases readLine ⟨catalog, false⟩ pending line with ⟨moments, _ | next⟩
    · simp only [cutShort, ite_self]
    · cases hfailure : moments.any Moment.isFailure with
      | true => simp [cutShort, hfailure, upToFirst_append]
      | false =>
        have hrest := ih (lastCatalog catalog moments) next
        simp only [cutShort, hfailure, Bool.false_eq_true, if_false, upToFirst_eq_self hfailure]
        show (moments ++ (readLines ⟨lastCatalog catalog moments, true⟩ next lines).1,
          (readLines ⟨lastCatalog catalog moments, true⟩ next lines).2) = _
        rw [hrest]
        simp [cutShort, behind, withCatalog, hfailure, upToFirst_append]

theorem scriptMoments_true (source : String) :
    scriptMoments ⟨catalog, true⟩ source = upToFirst Moment.isFailure (scriptMoments ⟨catalog, false⟩ source) := by
  rw [scriptMoments, scriptMoments, readLines_true]
  rcases readLines ⟨catalog, false⟩ .empty (scriptLines source) with ⟨moments, _ | rest⟩
  · simp only [cutShort, ite_self]
  · cases hfailure : moments.any Moment.isFailure with
    | true => simp [cutShort, hfailure, upToFirst_append]
    | false =>
      have hlast := batchMoments_true (lastCatalog catalog moments) rest.text
      simp only [cutShort, hfailure, Bool.false_eq_true, if_false, upToFirst_eq_self hfailure, upToFirst_append]
      exact congrArg (moments ++ ·) hlast

/-! ### The statement of it -/

/-- A run that stops at the first failure shows what the other run shows, up to its first failure, and leaves the catalog
that the other run had then. The moments are those of the other run. -/
structure CutsShort (start : Catalog) (moments : List Moment) (free strict : List Output × Shell) : Prop where
  free_outputs : free.1 = moments.map (·.output)
  free_catalog : free.2.catalog = lastCatalog start moments
  outputs : strict.1 = upToFirst Output.isFailure free.1
  catalog : strict.2.catalog = lastCatalog start (moments.take strict.1.length)

theorem cutsShort_shown (moments : List Moment) :
    CutsShort catalog moments (shown ⟨catalog, false⟩ moments)
      (shown ⟨catalog, true⟩ (upToFirst Moment.isFailure moments)) where
  free_outputs := rfl
  free_catalog := rfl
  outputs := (upToFirst_map Output.isFailure Moment.output moments).symm
  catalog := by
    have htake := upToFirst_eq_take Moment.isFailure moments
    show lastCatalog catalog (upToFirst Moment.isFailure moments) = _
    rw [shown, List.length_map, ← htake]

theorem runStatements_false (statements : List Statement) :
    runStatements false catalog statements =
      ((catalog.run statements).1.map Output.ofResult, (catalog.run statements).2) := by
  induction statements generalizing catalog with
  | nil => rfl
  | cons s statements ih =>
    simp only [runStatements_cons, Bool.false_eq_true, and_false, if_false, ih]
    rfl

/-- A batch that does not stop shows of each statement what it reports. -/
theorem runStatements_false_shows (statements : List Statement) :
    List.Forall₂ (fun output result => output.Shows result ∧ (output.isFailure = true ↔ ∃ e, result = .error e))
      (runStatements false catalog statements).1 (catalog.run statements).1 := by
  rw [runStatements_false, List.forall₂_map_left_iff, List.forall₂_same]
  intro result _
  exact ⟨Output.shows_ofResult result, Output.isFailure_ofResult result⟩

/-- Stopping at the first failure only cuts a run short, of a script as of a batch. A batch that does not stop gives one
output for each statement, which shows what the statement reports and is a failure exactly if that is an error. A batch
that stops has executed as many statements as it shows outputs. One that cannot be parsed gives one error, and changes
nothing. -/
theorem stopOnError_only_cuts (source : String) :
    CutsShort catalog (scriptMoments ⟨catalog, false⟩ source) (runScript ⟨catalog, false⟩ source)
        (runScript ⟨catalog, true⟩ source) ∧
      CutsShort catalog (batchMoments ⟨catalog, false⟩ source) (runBatch ⟨catalog, false⟩ source)
        (runBatch ⟨catalog, true⟩ source) ∧
      match catalog.executeBatch source with
      | (.error e, after) => after = catalog ∧
          ∀ stopOnError, runBatch ⟨catalog, stopOnError⟩ source = ([.error (.parse e)], ⟨catalog, stopOnError⟩)
      | (.ok outcomes, after) => (parse source).toOption.map List.length = some outcomes.length ∧
          ∃ outputs, runBatch ⟨catalog, false⟩ source = (outputs, ⟨after, false⟩) ∧
            List.Forall₂ (fun output outcome => output.Shows outcome ∧
              (output.isFailure = true ↔ ∃ e, outcome = .error e)) outputs outcomes ∧
            let (shown, stopped) := runBatch ⟨catalog, true⟩ source
            stopped.catalog = catalog.afterStatements source shown.length := by
  refine ⟨?_, ?_, ?_⟩
  · rw [runScript_eq_shown, runScript_eq_shown, scriptMoments_true]
    exact cutsShort_shown catalog _
  · rw [runBatch_eq_shown, runBatch_eq_shown, batchMoments_true]
    exact cutsShort_shown catalog _
  · simp only [Catalog.executeBatch, Catalog.afterStatements, runBatch]
    cases parse source with
    | error e => exact ⟨rfl, fun _ => rfl⟩
    | ok statements =>
      have hlast : (runStatements false catalog statements).2 = (catalog.run statements).2 := by
        rw [runStatements_false]
      refine ⟨congrArg some (catalog.length_run statements).symm, _, ?_, runStatements_false_shows catalog statements, ?_⟩
      · exact congrArg (fun last => ((runStatements false catalog statements).1, Shell.mk last false)) hlast
      · exact catalog_runStatements true catalog statements

end Shell

end SqlShell
