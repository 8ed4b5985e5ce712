/-!
# Runs

Words and numbers are cut off a text as its longest run of characters of some kind. A run is known by three facts:
all of its characters are of the kind, the character behind it is not, and the two make up the text.
-/

namespace SqlShell.Text

variable {p : Char → Bool} {run rest text : List Char}

/-- The text does not go on with a character of the kind. -/
def Stops (p : Char → Bool) (text : List Char) : Prop :=
  ∀ c ∈ text.head?, p c = false

theorem stops_nil : Stops p [] := by
  simp [Stops]

theorem stops_cons {c : Char} : Stops p (c :: text) ↔ p c = false := by
  simp [Stops]

theorem stops_dropWhile (p : Char → Bool) (text : List Char) : Stops p (text.dropWhile p) := by
  intro c hc
  have h := List.head?_dropWhile_not p text
  rw [Option.mem_def.1 hc] at h
  exact h

theorem of_mem_takeWhile {c : Char} (h : c ∈ text.takeWhile p) : p c = true :=
  List.all_eq_true.1 List.all_takeWhile c h

theorem takeWhile_append (hrun : ∀ c ∈ run, p c = true) (hrest : Stops p rest) : (run ++ rest).takeWhile p = run := by
  rw [List.takeWhile_append_of_pos hrun]
  cases rest with
  | nil => simp
  | cons c rest => rw [List.takeWhile_cons_of_neg (by simp [stops_cons.1 hrest]), List.append_nil]

theorem dropWhile_append (hrun : ∀ c ∈ run, p c = true) (hrest : Stops p rest) : (run ++ rest).dropWhile p = rest := by
  rw [List.dropWhile_append_of_pos hrun]
  cases rest with
  | nil => rfl
  | cons c rest => rw [List.dropWhile_cons_of_neg (by simp [stops_cons.1 hrest])]

end SqlShell.Text
