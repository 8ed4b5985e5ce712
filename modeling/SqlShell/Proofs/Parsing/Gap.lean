import SqlShell.Proofs.Parsing.Relocation
import SqlShell.Proofs.Token.Tiling
/-!
# Reading behind a gap

A gap in front of a text has no tokens of its own, and a lexer that starts further down finds the same tokens further
down. So a text behind a gap of whole lines is parsed like the text itself, with all of its tokens, or the place of the
error, moved down (`parse_append_gap`).
-/

namespace SqlShell

open Text

variable {gap rest text : List Char}

/-- One round of the lexer. -/
theorem lexFrom_eq (l : Location) (text : List Char) :
    lexFrom l text =
      match splitGap false text with
      | (_, []) => .ok []
      | (gap, c :: rest) =>
        match Lexeme.read? (c :: rest) with
        | none => .error ⟨l.after gap⟩
        | some lexeme =>
          match lexFrom ((l.after gap).after lexeme.spelling) lexeme.rest with
          | .error e => .error e
          | .ok tokens => .ok (⟨lexeme.kind, l.after gap⟩ :: tokens) := by
  rw [lexFrom]
  rcases splitGap false text with ⟨gap, _ | ⟨c, rest⟩⟩
  · rfl
  · simp only
    split
    · next hread => rw [hread]
    · next lexeme hread =>
      cases hrest : lexFrom ((l.after gap).after lexeme.spelling) lexeme.rest <;> simp only [hread, hrest]

/-! ### Gaps in front of a text -/

theorem splitGap_append_comment {body : List Char} (hbody : '\n' ∉ body) (text : List Char) :
    splitGap true (body ++ '\n' :: text) = (body ++ '\n' :: (splitGap false text).1, (splitGap false text).2) := by
  induction body with
  | nil => rfl
  | cons c body ih =>
    have hfeed : (c != '\n') = true := by
      rw [bne_iff_ne]
      rintro rfl
      exact hbody List.mem_cons_self
    have hbody : '\n' ∉ body := fun hmem => hbody (List.mem_cons_of_mem c hmem)
    rw [List.cons_append, splitGap, if_pos rfl, hfeed, ih hbody]
    rfl

/-- A gap in front of a text goes on with the gap that the text starts with. -/
theorem splitGap_append_gap {atEnd : Bool} (h : IsGap atEnd gap) (hend : atEnd = false) (text : List Char) :
    splitGap false (gap ++ text) = (gap ++ (splitGap false text).1, (splitGap false text).2) := by
  induction h with
  | nil => rfl
  | @blank _ c rest hc h ih =>
    rw [List.cons_append, splitGap, if_neg (by simp), if_pos hc, ih hend]
    rfl
  | @comment _ body rest hbody h ih =>
    have hbody' : '\n' ∉ '-' :: body := by simpa using hbody
    have htail := splitGap_append_comment hbody' (rest ++ text)
    rw [ih hend] at htail
    simp only [List.cons_append, List.append_assoc] at htail ⊢
    rw [splitGap, if_neg (by simp), if_neg (by decide), if_pos ⟨rfl, rfl⟩, htail]
  | lastComment => simp at hend

theorem isGap_append {atEnd : Bool} (h : IsGap atEnd gap) (hend : atEnd = false) (hrest : IsGap false rest) :
    IsGap false (gap ++ rest) := by
  induction h with
  | nil => exact hrest
  | blank hc h ih => exact .blank hc (ih hend)
  | @comment _ body _ hbody h ih =>
    rw [List.cons_append, List.cons_append, List.append_assoc, List.cons_append]
    exact .comment hbody (ih hend)
  | lastComment => simp at hend

theorem isGap_of_blanks {run : List Char} (hrun : ∀ c ∈ run, isBlank c = true) : IsGap false run := by
  induction run with
  | nil => exact .nil
  | cons c run ih =>
    obtain ⟨hc, hrun⟩ := List.forall_mem_cons.1 hrun
    exact .blank hc (ih hrun)

/-- A gap in front of a text adds no tokens. -/
theorem scans_append_gap {kinds : List Token.Kind} (hgap : IsGap false gap) :
    Scans false (gap ++ text) kinds ↔ Scans false text kinds := by
  have hsplit := splitGap_append_gap hgap rfl text
  constructor
  · intro h
    have hbehind := h.splitGap
    rw [hsplit] at hbehind
    exact .of_splitGap hbehind
  · intro h
    refine .of_splitGap ?_
    rw [hsplit]
    exact h.splitGap

/-- The lexer may start behind the gap. -/
theorem lexFrom_of_splitGap (l : Location) (h : splitGap false text = (gap, rest)) :
    lexFrom l text = lexFrom (l.after gap) rest := by
  have hrest : splitGap false rest = ([], rest) := splitGap_of_not_opensGap (opensGap_of_splitGap h)
  rw [lexFrom_eq, lexFrom_eq, h, hrest]
  cases rest <;> rfl

/-- One round of the lexer where no gap comes first. -/
theorem lexFrom_of_read? {kind : Token.Kind} {spelling : List Char} (l : Location) (hgap : opensGap text = false)
    (hread : Lexeme.read? text = some ⟨kind, spelling, rest⟩) :
    lexFrom l text = (lexFrom (l.after spelling) rest).map fun more => ⟨kind, l⟩ :: more := by
  cases text with
  | nil =>
    obtain ⟨htext, hne⟩ := Lexeme.read?_tiles hread
    exact absurd (List.append_eq_nil_iff.1 htext).1 hne
  | cons c tail =>
    rw [lexFrom_eq, splitGap_of_not_opensGap hgap]
    simp only [hread, Location.after_nil]
    cases lexFrom (l.after spelling) rest <;> rfl

theorem lexFrom_append_gap (l : Location) (h : IsGap false gap) (text : List Char) :
    lexFrom l (gap ++ text) = lexFrom (l.after gap) text := by
  rw [lexFrom_of_splitGap l (splitGap_append_gap h rfl text), Location.after_append]
  exact (lexFrom_of_splitGap _ rfl).symm

/-! ### Locations further down -/

namespace Location

/-- The location some lines further down. -/
def down (count : Nat) (l : Location) : Location :=
  ⟨l.line + count, l.column⟩

theorem next_down (count : Nat) (l : Location) (c : Char) : (l.down count).next c = (l.next c).down count := by
  rw [next, next]
  split
  · simp only [down, Nat.add_right_comm]
  · rfl

theorem after_down (count : Nat) (l : Location) (text : List Char) :
    (l.down count).after text = (l.after text).down count := by
  induction text generalizing l with
  | nil => rfl
  | cons c text ih => rw [after_cons, after_cons, next_down, ih]

/-- Behind whole lines, a text goes on at the start of a line further down. -/
theorem after_of_newline (h : text.getLast? = some '\n') : ∃ count, start.after text = start.down count := by
  obtain ⟨front, rfl⟩ := List.getLast?_eq_some_iff.1 h
  refine ⟨(start.after front).line + 1, ?_⟩
  rw [after_append, after_cons, after_nil, next, if_pos rfl, down, start, Nat.zero_add]

end Location

/-- A text that starts further down has the same tokens further down. -/
theorem lexFrom_down (count : Nat) (l : Location) (text : List Char) :
    lexFrom (l.down count) text =
      match lexFrom l text with
      | .error e => .error ⟨e.location.down count⟩
      | .ok tokens => .ok (tokens.map (Token.relocate (Location.down count))) := by
  fun_induction lexFrom l text with
  | case1 l text gap hgap => simp only [lexFrom_eq _ text, hgap, List.map_nil]
  | case2 l text gap c rest hgap hread => simp only [lexFrom_eq _ text, hgap, hread, Location.after_down]
  | case3 l text gap c rest hgap lexeme hread e he ih =>
    rw [he] at ih
    simp only [lexFrom_eq _ text, hgap, hread, Location.after_down, ih]
  | case4 l text gap c rest hgap lexeme hread tokens htokens ih =>
    rw [htokens] at ih
    simp only [lexFrom_eq _ text, hgap, hread, Location.after_down, ih]
    rfl

/-! ### Parsing behind a gap -/

/-- A text behind a gap of whole lines stands for the same statements further down, or is refused further down. -/
theorem parse_append_gap {source other : String} (hgap : IsGap false gap) (hlast : gap.getLast? = some '\n')
    (h : other.toList = gap ++ source.toList) :
    ∃ count, parse other =
      match parse source with
      | .error e => .error (e.relocate (Location.down count))
      | .ok statements => .ok (statements.map (Statement.relocate (Location.down count))) := by
  obtain ⟨count, hstart⟩ := Location.after_of_newline hlast
  refine ⟨count, ?_⟩
  have hlex := lexFrom_append_gap Location.start hgap source.toList
  rw [hstart, lexFrom_down] at hlex
  rw [parse, parse, lex, lex, h, hlex]
  cases lexFrom Location.start source.toList with
  | error e => rfl
  | ok tokens => exact parseTokens_map (Location.down count) tokens

end SqlShell
