import SqlShell.Text.Lines
/-!
# Lines and the text they come from

Cutting a text into lines loses only its line ends. `unlines` puts line feeds there, and may add one at the very end. So
it gives the text again, except that a carriage return in front of a line feed is lost (`unlines_lines_eq`).
-/

namespace SqlShell.Text

/-- The text of lines that all end with a line feed. -/
def unlines (lines : List (List Char)) : List Char :=
  lines.flatMap (· ++ ['\n'])

@[simp] theorem unlines_nil : unlines [] = [] := rfl

@[simp] theorem unlines_cons (line : List Char) (lines : List (List Char)) :
    unlines (line :: lines) = line ++ '\n' :: unlines lines := by
  simp [unlines]

/-- The text has a carriage return in front of a line feed. -/
def HasReturnFeed (text : List Char) : Prop :=
  ['\r', '\n'] <:+: text

instance (text : List Char) : Decidable (HasReturnFeed text) :=
  inferInstanceAs (Decidable (['\r', '\n'] <:+: text))

theorem HasReturnFeed.cons {c : Char} {text : List Char} (h : HasReturnFeed text) : HasReturnFeed (c :: text) :=
  h.trans (List.suffix_cons c text).isInfix

theorem HasReturnFeed.of_cons {c : Char} {text : List Char} (hreturn : ∀ rest, c = '\r' → text = '\n' :: rest → False)
    (h : HasReturnFeed (c :: text)) : HasReturnFeed text := by
  rcases List.infix_cons_iff.1 h with hprefix | htext
  · obtain ⟨rest, hrest⟩ := hprefix
    obtain ⟨rfl, htext⟩ := List.cons.inj hrest
    exact (hreturn rest rfl htext.symm).elim
  · exact htext

theorem hasReturnFeed_cons_cons (text : List Char) : HasReturnFeed ('\r' :: '\n' :: text) :=
  (List.prefix_append ['\r', '\n'] text).isInfix

/-- No line has a line feed in it. -/
theorem ne_newline_of_mem_lines (text : List Char) : ∀ line ∈ lines text, ∀ c ∈ line, c ≠ '\n' := by
  fun_induction lines text with
  | case1 => simp
  | case2 rest ih => simpa using ih
  | case3 rest ih => simpa using ih
  | case4 c rest hfeed hreturn ih =>
    have hc : c ≠ '\n' := fun h => hfeed h
    cases hlines : lines rest with
    | nil => simpa [extendFirst] using hc
    | cons line others =>
      rw [hlines] at ih
      obtain ⟨hline, hothers⟩ := List.forall_mem_cons.1 ih
      rw [extendFirst]
      exact List.forall_mem_cons.2 ⟨List.forall_mem_cons.2 ⟨hc, hline⟩, hothers⟩

theorem lines_ne_nil {text : List Char} (h : text ≠ []) : lines text ≠ [] := by
  fun_cases lines text with
  | case1 => exact absurd rfl h
  | case2 => simp
  | case3 => simp
  | case4 c rest => cases hlines : lines rest <;> simp [extendFirst]

/-! ### Line ends -/

/-- The text in which each line end is a line feed alone: a carriage return in front of a line feed is dropped. -/
def withLineFeeds : List Char → List Char
  | [] => []
  | '\r' :: '\n' :: rest => '\n' :: withLineFeeds rest
  | c :: rest => c :: withLineFeeds rest

theorem withLineFeeds_cons {c : Char} {rest : List Char} (h : c ≠ '\r' ∨ rest.head? ≠ some '\n') :
    withLineFeeds (c :: rest) = c :: withLineFeeds rest := by
  rw [withLineFeeds]
  rintro more rfl rfl
  simp at h

theorem length_withLineFeeds_le (text : List Char) : (withLineFeeds text).length ≤ text.length := by
  fun_induction withLineFeeds text with
  | case1 => exact Nat.le_refl 0
  | case2 rest ih => exact Nat.le_succ_of_le (Nat.succ_le_succ ih)
  | case3 c rest hreturn ih => exact Nat.succ_le_succ ih

/-- A text is left alone exactly if it has no carriage return in front of a line feed. -/
theorem withLineFeeds_eq_self_iff {text : List Char} : withLineFeeds text = text ↔ ¬HasReturnFeed text := by
  fun_induction withLineFeeds text with
  | case1 => decide
  | case2 rest ih =>
    refine iff_of_false (fun heq => ?_) fun hnone => hnone (hasReturnFeed_cons_cons rest)
    have hshorter := length_withLineFeeds_le rest
    have hlength := congrArg List.length heq
    simp only [List.length_cons] at hlength
    omega
  | case3 c rest hreturn ih =>
    rw [List.cons_inj_right, ih]
    exact ⟨fun hrest h => hrest (h.of_cons hreturn), fun h hrest => h hrest.cons⟩

/-- A text may be cut anywhere but inside a line end. -/
theorem withLineFeeds_append {first second : List Char}
    (h : first.getLast? ≠ some '\r' ∨ second.head? ≠ some '\n') :
    withLineFeeds (first ++ second) = withLineFeeds first ++ withLineFeeds second := by
  fun_induction withLineFeeds first with
  | case1 => rfl
  | case2 rest ih =>
    have hrest : rest.getLast? ≠ some '\r' ∨ second.head? ≠ some '\n' := by
      refine h.imp (fun hlast heq => ?_) id
      simp [List.getLast?_cons, heq] at hlast
    rw [List.cons_append, List.cons_append, withLineFeeds, ih hrest, List.cons_append]
  | case3 c rest hreturn ih =>
    cases rest with
    | nil =>
      have hc : c ≠ '\r' ∨ second.head? ≠ some '\n' := by simpa using h
      exact withLineFeeds_cons hc
    | cons d rest =>
      have hc : c ≠ '\r' ∨ (d :: rest ++ second).head? ≠ some '\n' := by
        by_cases hc : c = '\r'
        · refine .inr fun hd => ?_
          obtain rfl : d = '\n' := by simpa using hd
          exact hreturn rest hc rfl
        · exact .inl hc
      rw [List.cons_append, withLineFeeds_cons hc, ih (by simpa using h), List.cons_append]

/-- The lines of a text make up the text again, but with line feeds alone at their ends. -/
theorem unlines_lines_eq (text : List Char) :
    unlines (lines text) = withLineFeeds text ∨ unlines (lines text) = withLineFeeds text ++ ['\n'] := by
  fun_induction lines text with
  | case1 => exact .inl rfl
  | case2 rest ih =>
    have hfeed : withLineFeeds ('\n' :: rest) = '\n' :: withLineFeeds rest := withLineFeeds_cons (.inl (by decide))
    rw [hfeed]
    simpa using ih
  | case3 rest ih => simpa [withLineFeeds] using ih
  | case4 c rest hfeed hreturn ih =>
    have hc : withLineFeeds (c :: rest) = c :: withLineFeeds rest := by
      rw [withLineFeeds]
      exact hreturn
    rw [hc]
    cases hlines : lines rest with
    | nil =>
      have hnil : rest = [] := Decidable.byContradiction fun hne => lines_ne_nil hne hlines
      subst hnil
      exact .inr rfl
    | cons line others =>
      rw [hlines] at ih
      simpa [extendFirst] using ih

theorem unlines_lines {text : List Char} (h : ¬HasReturnFeed text) :
    unlines (lines text) = text ∨ unlines (lines text) = text ++ ['\n'] := by
  have htext := unlines_lines_eq text
  rwa [withLineFeeds_eq_self_iff.2 h] at htext

/-! ### Pieces of a text -/

theorem extendFirst_append {c : Char} {first : List (List Char)} (hne : first ≠ []) (second : List (List Char)) :
    extendFirst c (first ++ second) = extendFirst c first ++ second := by
  cases first with
  | nil => exact absurd rfl hne
  | cons line first => rfl

/-- Behind its first character, a text of whole lines is one too. -/
theorem whole_tail {c : Char} {rest : List Char} (h : c :: rest = [] ∨ (c :: rest).getLast? = some '\n') :
    rest = [] ∨ rest.getLast? = some '\n' := by
  cases rest with
  | nil => exact .inl rfl
  | cons d rest => exact .inr (by simpa using h)

/-- The lines of a text behind whole lines follow these. -/
theorem lines_append {front : List Char} (h : front = [] ∨ front.getLast? = some '\n') (text : List Char) :
    lines (front ++ text) = lines front ++ lines text := by
  fun_induction lines front with
  | case1 => rfl
  | case2 rest ih => rw [List.cons_append, lines, ih (whole_tail h), List.cons_append]
  | case3 rest ih => rw [List.cons_append, List.cons_append, lines, ih (whole_tail (whole_tail h)), List.cons_append]
  | case4 c rest hfeed hreturn ih =>
    cases rest with
    | nil => exact absurd (by simpa using h) hfeed
    | cons d rest =>
      have hline : lines (c :: d :: rest ++ text) = extendFirst c (lines (d :: rest ++ text)) := by
        rw [List.cons_append, lines]
        · exact hfeed
        · rintro more hc hmore
          exact hreturn rest hc (by rw [(List.cons.inj hmore).1])
      rw [hline, ih (whole_tail h), extendFirst_append (lines_ne_nil (by simp))]

/-- A line is read without its line end, to which a carriage return belongs. -/
theorem lines_line {line : List Char} (hline : '\n' ∉ line) :
    ∃ written, (line = written ∨ line = written ++ ['\r']) ∧ lines (line ++ ['\n']) = [written] := by
  induction line with
  | nil => exact ⟨[], .inl rfl, rfl⟩
  | cons c line ih =>
    obtain ⟨written, hwritten, hlines⟩ := ih fun hmem => hline (List.mem_cons_of_mem c hmem)
    by_cases hreturn : c = '\r' ∧ line = []
    · obtain ⟨rfl, rfl⟩ := hreturn
      exact ⟨[], .inr rfl, rfl⟩
    · refine ⟨c :: written, by simpa using hwritten, ?_⟩
      rw [List.cons_append, lines, hlines, extendFirst]
      · rintro rfl
        exact hline List.mem_cons_self
      · rintro rest rfl hrest
        cases line with
        | nil => exact hreturn ⟨rfl, rfl⟩
        | cons d line =>
          obtain ⟨rfl, -⟩ := List.cons.inj hrest
          simp at hline

end SqlShell.Text
