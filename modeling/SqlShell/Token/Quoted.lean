/-!
# Quoted runs

A text literal or a quoted name stands between two delimiters, and a delimiter inside it is written twice.
`encode` writes such a run and `contents?` reads one back. A run ends at the first delimiter that is not
followed by another, so reading never depends on what comes after the character behind the run.
-/

namespace SqlShell.Quoted

/-- The text with every delimiter written twice. -/
def double (delimiter : Char) : List Char → List Char
  | [] => []
  | c :: rest =>
    if c = delimiter then delimiter :: delimiter :: double delimiter rest else c :: double delimiter rest

/-- The quoted run that stands for a text. -/
def encode (delimiter : Char) (contents : List Char) : List Char :=
  delimiter :: (double delimiter contents ++ [delimiter])

/-- Reads a run behind its opening delimiter: what it stands for and the text after its closing delimiter. A run
that is never closed stands for nothing. -/
def contents? (delimiter : Char) : List Char → Option (List Char × List Char)
  | [] => none
  | [c] => if c = delimiter then some ([], []) else none
  | c :: d :: rest =>
    if c = delimiter then
      if d = delimiter then (contents? delimiter rest).map fun (contents, after) => (c :: contents, after)
      else some ([], d :: rest)
    else (contents? delimiter (d :: rest)).map fun (contents, after) => (c :: contents, after)

/-- Reads a whole run at the start of a text. -/
def decode? (delimiter : Char) : List Char → Option (List Char × List Char)
  | [] => none
  | c :: rest => if c = delimiter then contents? delimiter rest else none

theorem eq_double_of_contents? {delimiter : Char} {text contents after : List Char}
    (h : contents? delimiter text = some (contents, after)) :
    text = double delimiter contents ++ delimiter :: after := by
  fun_induction contents? delimiter text generalizing contents after with
  | case1 => simp at h
  | case2 =>
    obtain ⟨rfl, rfl⟩ : [] = contents ∧ [] = after := by simpa using h
    rfl
  | case3 => simp at h
  | case4 rest ih =>
    obtain ⟨⟨inner, tail⟩, hinner, hpair⟩ := Option.map_eq_some_iff.1 h
    obtain ⟨rfl, rfl⟩ := Prod.mk.inj hpair
    simp [double, ih hinner]
  | case5 d rest hd =>
    obtain ⟨rfl, rfl⟩ : [] = contents ∧ d :: rest = after := by simpa using h
    rfl
  | case6 c d rest hc ih =>
    obtain ⟨⟨inner, tail⟩, hinner, hpair⟩ := Option.map_eq_some_iff.1 h
    obtain ⟨rfl, rfl⟩ := Prod.mk.inj hpair
    simp [double, hc, ih hinner]

/-- What is read as a quoted run is the written form of its contents. -/
theorem eq_encode_of_decode? {delimiter : Char} {text contents after : List Char}
    (h : decode? delimiter text = some (contents, after)) : text = encode delimiter contents ++ after := by
  match text with
  | [] => simp [decode?] at h
  | c :: rest =>
    rw [decode?] at h
    split at h
    · next hc => simp [encode, hc, eq_double_of_contents? h]
    · simp at h

end SqlShell.Quoted
