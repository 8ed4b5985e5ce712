import SqlShell.Proofs.Text.Blanks
import SqlShell.Proofs.Token.Spells
/-!
# Names that read as themselves

A name may be written without quotes where the lexer, given the name and nothing else, finds just this name. It then
does so wherever the name is broken off (`spells_of_lex`). The reason is that bare names are put into lower case, and
no character in lower case opens a gap, so that the text of the name has no room for anything but the name.
-/

namespace SqlShell

open Text

variable {name : String} {spelling rest : List Char}

/-! ### Characters -/

/-- Neither a blank nor the sign that comments start with. -/
def isSolid (c : Char) : Bool :=
  !isBlank c && c != '-'

theorem isSolid_iff {c : Char} : isSolid c = true ↔ isBlank c = false ∧ c ≠ '-' := by
  simp [isSolid]

theorem isSolid_of_isNameChar {c : Char} (h : isNameChar c = true) : isSolid c = true := by
  refine isSolid_iff.2 ⟨isBlank_eq_false_of isNameChar blanks_all_not_isNameChar h, ?_⟩
  rintro rfl
  exact absurd h (by decide)

theorem opensGap_of_isSolid {text : List Char} (h : ∀ c ∈ text, isSolid c = true) : opensGap text = false := by
  cases text with
  | nil => rfl
  | cons c text =>
    obtain ⟨hblank, hsign⟩ := isSolid_iff.1 (h c List.mem_cons_self)
    simp [opensGap, hblank, hsign]

/-- The lower case of a capital beyond ASCII. -/
theorem isSolid_of_contains {run : CapitalRun} (hrun : run ∈ capitalRuns) {code : Nat}
    (hcode : run.contains code = true) : isSolid (Char.ofNat (run.target + (code - run.first))) = true := by
  have hall : (capitalRuns.all fun run => (List.range (run.last - run.first + 1)).all fun distance =>
      isSolid (Char.ofNat (run.target + distance))) = true := by
    decide +kernel
  simp only [CapitalRun.contains, Bool.and_eq_true, decide_eq_true_eq] at hcode
  exact List.all_eq_true.1 (List.all_eq_true.1 hall run hrun) _ (List.mem_range.2 (by omega))

/-- The lower case of a character of a name. -/
theorem isSolid_of_mem_lower {c d : Char} (hc : isNameChar c = true) (hd : d ∈ lower c) : isSolid d = true := by
  rw [lower] at hd
  split at hd
  · next hascii =>
    obtain rfl := List.mem_singleton.1 hd
    have hall : ∀ n < 0x80, isNameChar (Char.ofNat n) = true → isSolid (Char.ofNat n).toLower = true := by
      decide +kernel
    rw [← Char.ofNat_toNat c] at hc ⊢
    exact hall _ hascii hc
  · split at hd
    · rcases List.mem_pair.1 hd with rfl | rfl <;> decide
    · split at hd
      · next run hrun =>
        obtain rfl := List.mem_singleton.1 hd
        have hcontains : run.contains c.toNat = true := by simpa using List.find?_some hrun
        exact isSolid_of_contains (List.mem_of_find?_eq_some hrun) hcontains
      · obtain rfl := List.mem_singleton.1 hd
        exact isSolid_of_isNameChar hc

/-! ### Spellings -/

theorem Quoted.length_le_length_double (delimiter : Char) (contents : List Char) :
    contents.length ≤ (double delimiter contents).length := by
  induction contents with
  | nil => exact Nat.le_refl _
  | cons c contents ih =>
    rw [double]
    split <;> simp only [List.length_cons] <;> omega

/-- A bare name has no character that opens a gap, and a quoted one is longer than what it stands for. -/
theorem Token.Kind.Spelled.solid_or_longer (h : (identifier name).Spelled spelling rest) :
    (∀ c ∈ name.toList, isSolid c = true) ∨ name.toList.length < spelling.length := by
  cases h with
  | word _ hkind => exact absurd (ofWord?_eq_some hkind).1 (by simp)
  | @quotedName delimiter contents =>
    refine .inr ?_
    have hdouble := Quoted.length_le_length_double delimiter contents
    simp only [String.toList_ofList, Quoted.encode, List.length_cons, List.length_append, List.length_nil]
    omega
  | @bareName first run _ hfirst hrun =>
    refine .inl fun d hd => ?_
    rw [SqlShell.bareName, String.toList_ofList] at hd
    obtain ⟨c, hc, hd⟩ := List.mem_flatMap.1 hd
    have hname : ∀ c ∈ first :: run, isNameChar c = true :=
      List.forall_mem_cons.2 ⟨isNameChar_of_isNameStart hfirst, hrun⟩
    exact isSolid_of_mem_lower (hname c hc) hd

/-! ### Texts of one token -/

/-- A text without tokens begins with a gap. -/
theorem Scans.eq_nil_of_isSolid (h : Scans false rest []) (hsolid : ∀ c ∈ rest, isSolid c = true) : rest = [] := by
  by_contra hne
  obtain ⟨_, _, -, hkinds, -⟩ := h.read? hne (opensGap_of_isSolid hsolid)
  simp at hkinds

/-- A text of one token is a gap, the token's spelling, and what has no tokens. -/
theorem Scans.exists_spelling {text : List Char} {kind : Token.Kind} (h : Scans false text [kind]) :
    ∃ spelling rest, (SqlShell.splitGap false text).2 = spelling ++ rest ∧ kind.Spelled spelling rest ∧
      Scans false rest [] := by
  have hbehind := h.splitGap
  have hne : (SqlShell.splitGap false text).2 ≠ [] := by
    intro hnil
    rw [hnil] at hbehind
    exact absurd hbehind.eq_nil_of_nil (by simp)
  obtain ⟨lexeme, more, hread, hkinds, hrest⟩ := hbehind.read? hne (opensGap_splitGap false text)
  obtain ⟨rfl, rfl⟩ := List.cons.inj hkinds
  exact ⟨lexeme.spelling, lexeme.rest, (Lexeme.read?_tiles hread).1.symm, Lexeme.spelled_of_read? hread, hrest⟩

/-- A name that is read as itself on its own is read as itself wherever it is broken off. -/
theorem spells_of_lex {location : Location} (h : lex name = .ok [⟨.identifier name, location⟩]) :
    Spells name.toList [.identifier name] := by
  have hscans : Scans false name.toList [.identifier name] := scans_of_lexFrom h
  obtain ⟨spelling, rest, hbehind, hspelled, hrest⟩ := hscans.exists_spelling
  have htext := splitGap_append false name.toList
  rw [hbehind] at htext
  rcases hspelled.solid_or_longer with hsolid | hlonger
  · -- a gap can begin neither in front of the spelling nor behind it
    have hopens : opensGap name.toList = false := opensGap_of_isSolid hsolid
    rw [splitGap_of_not_opensGap hopens, List.nil_append] at htext
    obtain rfl := hrest.eq_nil_of_isSolid fun c hc => hsolid c (htext ▸ List.mem_append_right _ hc)
    rw [List.append_nil] at htext
    rw [← htext] at hopens ⊢
    exact spells_token hspelled hopens
  · have hlength := congrArg List.length htext
    simp only [List.length_append] at hlength
    omega

end SqlShell
