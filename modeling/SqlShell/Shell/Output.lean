import SqlShell.Report.Aligned
import SqlShell.Report.JsonValue
/-!
# Outputs

What the shell has to show: the results and tags of statements, the texts of commands, and errors.
-/

namespace SqlShell

/-- One piece of output. -/
inductive Output where
  | rows (result : ResultTable)
  /-- The tag of a statement that has no rows to show. -/
  | status (text : String)
  | message (text : String)
  | error (error : BatchError)
  /-- A command that is unknown or wrongly used. -/
  | usage (text : String)
deriving DecidableEq, Inhabited

namespace Output

/-- The output tells that something went wrong. -/
def isFailure : Output → Bool
  | .error _ | .usage _ => true
  | _ => false

/-- The output of a statement that has been executed. -/
def ofOutcome : Outcome → Output
  | .selected result => .rows result
  | outcome => .status outcome.tag

/-- The output for what a statement reports. -/
def ofResult : Except StatementError Outcome → Output
  | .ok outcome => ofOutcome outcome
  | .error e => .error (.statement e)

@[simp] theorem isFailure_ofOutcome (outcome : Outcome) : (ofOutcome outcome).isFailure = false := by
  cases outcome <;> rfl

/-- A statement gives a failure exactly if what it reports is an error. -/
theorem isFailure_ofResult (result : Except StatementError Outcome) :
    (ofResult result).isFailure = true ↔ ∃ e, result = .error e := by
  cases result with
  | error e => exact iff_of_true rfl ⟨e, rfl⟩
  | ok outcome => simp [ofResult]

/-- The number of rows in words. -/
def rowCount (count : Nat) : String :=
  if count = 1 then s!"({count} row)" else s!"({count} rows)"

/-- The text of an output, with results as tables or as JSON. A result that is too wide for a table has none. -/
def text? (json : Bool) : Output → Option String
  | .rows result =>
    if json then some ((JsonValue.ofResult result).pretty "")
    else (Report.aligned? result).map (· ++ rowCount result.rows.length)
  | .status text | .message text | .usage text => some text
  | .error e => some e.message

end Output

end SqlShell
