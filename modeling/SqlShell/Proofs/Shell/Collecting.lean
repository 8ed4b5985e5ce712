import SqlShell.Proofs.Shell.Ending
/-!
# The shell and the lexer agree on where statements end

A pending batch goes through a history of operations. Each of them keeps two facts (`PendingBatch.Collecting`): the
quote is the one that the lines leave open, and outside quotes the lines do not end with a semicolon. From these and
one more line the batch knows what the lexer would find in the whole text, if the lexer finds tokens in it, or would
find them if one more delimiter stood behind it (`PendingBatch.push_agrees_with_lex`).
-/

namespace SqlShell

open Text Mode

namespace PendingBatch

/-- What the shell does with a pending batch. -/
inductive Operation where
  | push (line : String)
  | take
  | clear

/-- The batch that an operation leaves. -/
def Operation.apply (batch : PendingBatch) : Operation → PendingBatch
  | .push line => (batch.push line).2
  | .take => batch.take.2
  | .clear => batch.clear

/-- The batch behind a history of operations. -/
def after (history : List Operation) : PendingBatch :=
  history.foldl Operation.apply empty

/-- The operation adds no more than one line. -/
def Operation.IsLine : Operation → Prop
  | .push line => '\n' ∉ line.toList
  | .take => True
  | .clear => True

/-- The text collected together with one more line. Behind no text, a blank line does not count. -/
def textWith (batch : PendingBatch) (line : String) : String :=
  if batch.isEmpty ∧ line.toList.all isBlank then batch.text else batch.text ++ line ++ "\n"

variable {batch : PendingBatch} {line : String} {history : List Operation}

/-! ### What every operation keeps -/

/-- The lines collected so far do not end a statement. -/
structure Collecting (batch : PendingBatch) : Prop extends batch.Collected where
  unfinished : batch.quote = none → lastIn .code none batch.text.toList ≠ some ';'

theorem collecting_empty : empty.Collecting :=
  { collected_empty with unfinished := fun _ => by simp [empty] }

/-- A line ends a statement exactly if the text up to its end is in code there and ends with a semicolon. -/
theorem Collecting.scan_iff (h : batch.Collecting) {line : List Char} (hline : ∀ c ∈ line, c ≠ '\n') :
    scan batch.quote none line = (none, some ';') ↔
      (scan batch.quote none line).1 = none ∧
        lastIn .code none (batch.text.toList ++ (line ++ ['\n'])) = some ';' := by
  constructor
  · intro hscan
    exact ⟨by rw [hscan], h.toCollected.lastIn_eq_semicolon hline hscan⟩
  · rintro ⟨hnone, hlast⟩
    have hline' := h.toCollected.lastIn_scan none hline hnone
    rw [h.toCollected.lastIn_line] at hlast
    have hfound : (scan batch.quote none line).2 = some ';' := by
      cases hquote : batch.quote with
      | none =>
        rw [lastIn_eq_or, hline', Option.or_eq_some_iff, hquote] at hlast
        rcases hlast with hlast | ⟨-, hlast⟩
        · exact hlast
        · exact absurd hlast (h.unfinished hquote)
      | some delimiter =>
        -- inside quotes every character counts, and there is one
        rw [hquote] at hline' hlast
        rw [← hline', ← hlast]
        cases line <;> rfl
    exact Prod.ext hnone hfound

theorem push_eq (batch : PendingBatch) (line : String) :
    batch.push line =
      if batch.isEmpty ∧ line.toList.all isBlank then (none, batch)
      else if scan batch.quote none line.toList = (none, some ';') then (some (batch.textWith line), empty)
      else (none, ⟨batch.textWith line, (scan batch.quote none line.toList).1⟩) := by
  rw [push, textWith]
  split
  · rfl
  · split
    · next hscan => rw [if_pos hscan]
    · next quote last hother hscan =>
      have hne : scan batch.quote none line.toList ≠ (none, some ';') := by
        rw [hscan]
        intro heq
        exact hother (congrArg Prod.fst heq) (congrArg Prod.snd heq)
      rw [if_neg hne, hscan]

theorem toList_textWith (hblank : ¬(batch.isEmpty = true ∧ line.toList.all isBlank = true)) :
    (batch.textWith line).toList = batch.text.toList ++ (line.toList ++ ['\n']) := by
  rw [textWith, if_neg hblank]
  simp

theorem ne_newline_of_not_mem {text : List Char} (h : '\n' ∉ text) : ∀ c ∈ text, c ≠ '\n' :=
  fun _ hc hfeed => h (hfeed ▸ hc)

theorem Collecting.push (h : batch.Collecting) (hline : ∀ c ∈ line.toList, c ≠ '\n') :
    (batch.push line).2.Collecting := by
  rw [push_eq]
  split
  · exact h
  · next hblank =>
    split
    · exact collecting_empty
    · next hscan =>
      have happend := h.toCollected.append_line hline
      rw [String.ofList_toList] at happend
      have htext : batch.textWith line = batch.text ++ line ++ "\n" := by rw [textWith, if_neg hblank]
      rw [htext]
      refine { happend with unfinished := ?_ }
      intro hquote hlast
      refine hscan ((h.scan_iff hline).2 ⟨hquote, ?_⟩)
      simpa using hlast

theorem Collecting.apply (h : batch.Collecting) {operation : Operation} (hline : operation.IsLine) :
    (operation.apply batch).Collecting := by
  cases operation with
  | push line => exact h.push (ne_newline_of_not_mem hline)
  | take => exact collecting_empty
  | clear => exact collecting_empty

theorem collecting_after (h : ∀ operation ∈ history, operation.IsLine) : (after history).Collecting := by
  have hfold : ∀ start : PendingBatch, start.Collecting → (history.foldl Operation.apply start).Collecting := by
    induction history with
    | nil => exact fun start hstart => hstart
    | cons operation history ih =>
      obtain ⟨hoperation, hhistory⟩ := List.forall_mem_cons.1 h
      intro start hstart
      exact ih hhistory _ (hstart.apply hoperation)
  exact hfold empty collecting_empty

theorem Collected.quote_eq_none (h : batch.Collected) (hempty : batch.text = "") : batch.quote = none := by
  have hmode := h.mode
  rw [hempty] at hmode
  cases hquote : batch.quote with
  | none => rfl
  | some delimiter => simp [hquote, ofQuote] at hmode

/-! ### What the lexer finds -/

/-- A text that the lexer takes closes all of its quotes, and its last token is a semicolon if the batch sees one. -/
theorem Collecting.scan_of_scans (h : batch.Collecting) {line : List Char} {kinds : List Token.Kind}
    (hline : ∀ c ∈ line, c ≠ '\n') (hscans : Scans false (batch.text.toList ++ (line ++ ['\n'])) kinds) :
    (scan batch.quote none line).1 = none ∧
      (scan batch.quote none line = (none, some ';') ↔ kinds.getLast? = some (.symbol .semicolon)) := by
  have hnone : (scan batch.quote none line).1 = none := by
    obtain ⟨endsInComment, hmode⟩ := hscans.sweep
    have hquote := (h.toCollected.sweep_line hline).symm.trans hmode
    cases hfound : (scan batch.quote none line).1 with
    | none => rfl
    | some delimiter => cases endsInComment <;> simp [hfound, ofQuote, ofComment] at hquote
  refine ⟨hnone, (h.scan_iff hline).trans ?_⟩
  have hlast : lastIn .code none (batch.text.toList ++ (line ++ ['\n'])) = some ';' ↔
      kinds.getLast? = some (.symbol .semicolon) ∨ kinds = [] ∧ none = some ';' :=
    hscans.lastIn_eq_semicolon_iff none
  rw [hlast]
  simp [hnone]

/-- A text that the lexer would take with one more character, but does not take as it is, ends inside of quotes that
this character closes. -/
theorem sweep_of_scans_append {text : List Char} {delimiter : Char} {kinds : List Token.Kind}
    (hend : text.getLast? = some '\n') (hopen : ∀ kinds, ¬Scans false text kinds)
    (hclosed : Scans false (text ++ [delimiter]) kinds) (hmode : sweep .code text ≠ .comment) :
    sweep .code text = .quoted delimiter := by
  cases hsweep : sweep .code text with
  | code =>
    -- the lexer would take the text on its own
    obtain ⟨before, -, -, hbefore, -⟩ := hclosed.split rfl (.inr (.inl hend)) hsweep
    exact absurd hbefore (hopen before)
  | comment => exact absurd hsweep hmode
  | quoted other =>
    obtain ⟨endsInComment, hafter⟩ := hclosed.sweep
    have hcut : text.getLast? ≠ some '-' := by simp [hend]
    have hstep : (sweep .code text).sweep [delimiter] = ofComment endsInComment :=
      (Mode.sweep_append (.inl hcut)).symm.trans hafter
    rw [hsweep, sweep] at hstep
    split at hstep
    · next hsame => rw [hsame]
    · cases endsInComment <;> simp [ofComment] at hstep

theorem push_of_blank (hblank : batch.isEmpty = true ∧ line.toList.all isBlank = true) :
    batch.push line = (none, batch) ∧ batch.textWith line = "" := by
  have hempty : batch.text = "" := by simpa [isEmpty] using hblank.1
  rw [push_eq, textWith, if_pos hblank, if_pos hblank]
  exact ⟨rfl, hempty⟩

theorem Collecting.push_of_lex (h : batch.Collecting) (hline : ∀ c ∈ line.toList, c ≠ '\n') {tokens : List Token}
    (hlex : lex (batch.textWith line) = .ok tokens) :
    batch.push line =
      if tokens.getLast?.map (·.kind) = some (.symbol .semicolon) then (some (batch.textWith line), ⟨"", none⟩)
      else (none, ⟨batch.textWith line, none⟩) := by
  have hscans := scans_of_lexFrom hlex
  rw [← List.getLast?_map]
  by_cases hblank : batch.isEmpty = true ∧ line.toList.all isBlank = true
  · obtain ⟨hpush, htext⟩ := push_of_blank hblank
    rw [htext] at hscans
    have hempty : batch.text = "" := by simpa [isEmpty] using hblank.1
    rw [hpush, htext, hscans.eq_nil_of_nil, List.getLast?_nil, if_neg (by simp), ← h.toCollected.quote_eq_none hempty,
      ← hempty]
  · rw [toList_textWith hblank] at hscans
    obtain ⟨hnone, hends⟩ := h.scan_of_scans hline hscans
    rw [push_eq, if_neg hblank, hnone]
    simp only [hends]
    rfl

theorem Collecting.push_of_lex_push (h : batch.Collecting) (hline : ∀ c ∈ line.toList, c ≠ '\n') {error : LexError}
    {tokens : List Token} {delimiter : Char} (hopen : lex (batch.textWith line) = .error error)
    (hclosed : lex ((batch.textWith line).push delimiter) = .ok tokens) :
    batch.push line = (none, ⟨batch.textWith line, some delimiter⟩) := by
  have hnever : ∀ kinds, ¬Scans false (batch.textWith line).toList kinds := by
    intro kinds hscans
    obtain ⟨found, hfound, -⟩ := hscans.lexFrom Location.start
    exact absurd (hopen.symm.trans hfound) (by simp)
  have hscans := scans_of_lexFrom hclosed
  rw [String.toList_push] at hscans
  by_cases hblank : batch.isEmpty = true ∧ line.toList.all isBlank = true
  · rw [(push_of_blank hblank).2] at hnever
    exact absurd .finish (hnever [])
  rw [toList_textWith hblank] at hnever hscans
  have hmode := h.toCollected.sweep_line hline
  have hquoted : sweep .code (batch.text.toList ++ (line.toList ++ ['\n'])) = .quoted delimiter := by
    refine sweep_of_scans_append (by simp) hnever hscans ?_
    rw [hmode]
    cases (scan batch.quote none line.toList).1 <;> simp [ofQuote]
  have hfound : (scan batch.quote none line.toList).1 = some delimiter := by
    rw [hmode] at hquoted
    cases hquote : (scan batch.quote none line.toList).1 with
    | none => simp [hquote, ofQuote] at hquoted
    | some other =>
      rw [hquote] at hquoted
      rw [Mode.quoted.inj hquoted]
  have hends : scan batch.quote none line.toList ≠ (none, some ';') := by
    intro hscan
    simp [hscan] at hfound
  rw [push_eq, if_neg hblank, if_neg hends, hfound]

/-- Behind every history of operations, a line completes a statement exactly if the lexer finds a semicolon at the end
of the text, and quotes are remembered as open exactly if their delimiter is what the lexer misses there. -/
theorem push_agrees_with_lex (history : List Operation) (hhistory : ∀ operation ∈ history, operation.IsLine)
    (line : String) (hline : '\n' ∉ line.toList) :
    ((after history).text = "" → (after history).quote = none) ∧
      (∀ tokens, lex ((after history).textWith line) = .ok tokens →
        (after history).push line =
          if tokens.getLast?.map (·.kind) = some (.symbol .semicolon) then
            (some ((after history).textWith line), ⟨"", none⟩)
          else (none, ⟨(after history).textWith line, none⟩)) ∧
      ∀ error tokens delimiter, lex ((after history).textWith line) = .error error →
        lex (((after history).textWith line).push delimiter) = .ok tokens →
          (after history).push line = (none, ⟨(after history).textWith line, some delimiter⟩) := by
  have hcollecting := collecting_after hhistory
  have hline' := ne_newline_of_not_mem hline
  refine ⟨hcollecting.toCollected.quote_eq_none, ?_, ?_⟩
  · intro tokens hlex
    exact hcollecting.push_of_lex hline' hlex
  · intro error tokens delimiter hopen hclosed
    exact hcollecting.push_of_lex_push hline' hopen hclosed

/-- A semicolon in a text over two lines, and one in front of a comment. -/
theorem push_agrees_with_lex_of_two_lines :
    (∀ operation ∈ [Operation.push " ", .push "DROP 'a;"], operation.IsLine) ∧
      '\n' ∉ "''--', x; -- y".toList ∧
      after [Operation.push " ", .push "DROP 'a;"] = ⟨"DROP 'a;\n", some '\''⟩ ∧
      (after [Operation.push " ", .push "DROP 'a;"]).push "''--', x; -- y" =
        (some "DROP 'a;\n''--', x; -- y\n", ⟨"", none⟩) := by
  have hfirst : ∀ operation ∈ [Operation.push " "], operation.IsLine := by simp [Operation.IsLine]
  have hhistory : ∀ operation ∈ [Operation.push " ", .push "DROP 'a;"], operation.IsLine := by simp [Operation.IsLine]
  have hline : '\n' ∉ "''--', x; -- y".toList := by decide
  have hopen : (lex ((after [Operation.push " "]).textWith "DROP 'a;")).isOk = false ∧
      (lex (((after [Operation.push " "]).textWith "DROP 'a;").push '\'')).isOk = true := by
    decide +kernel
  have hlast : (lex ((after [Operation.push " ", .push "DROP 'a;"]).textWith "''--', x; -- y")).toOption.map
      (fun tokens => tokens.getLast?.map (·.kind)) = some (some (.symbol .semicolon)) := by
    decide +kernel
  have hfirstPush : (after [Operation.push " "]).push "DROP 'a;" = (none, ⟨"DROP 'a;\n", some '\''⟩) := by
    cases herror : lex ((after [Operation.push " "]).textWith "DROP 'a;") with
    | ok tokens => simp [herror, Except.isOk, Except.toBool] at hopen
    | error e =>
      cases hclosed : lex (((after [Operation.push " "]).textWith "DROP 'a;").push '\'') with
      | error e => simp [hclosed, Except.isOk, Except.toBool] at hopen
      | ok tokens => exact (push_agrees_with_lex _ hfirst "DROP 'a;" (by decide)).2.2 _ _ _ herror hclosed
  have hsecondPush : (after [Operation.push " ", .push "DROP 'a;"]).push "''--', x; -- y" =
      (some "DROP 'a;\n''--', x; -- y\n", ⟨"", none⟩) := by
    cases htokens : lex ((after [Operation.push " ", .push "DROP 'a;"]).textWith "''--', x; -- y") with
    | error e => simp [htokens, Except.toOption] at hlast
    | ok tokens =>
      have hends : tokens.getLast?.map (·.kind) = some (.symbol .semicolon) := by
        simpa [htokens, Except.toOption] using hlast
      have hpush := (push_agrees_with_lex _ hhistory _ hline).2.1 tokens htokens
      rw [if_pos hends] at hpush
      exact hpush
  exact ⟨hhistory, hline, congrArg Prod.snd hfirstPush, hsecondPush⟩

end PendingBatch

end SqlShell
