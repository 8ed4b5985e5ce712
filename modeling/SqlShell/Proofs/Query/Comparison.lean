import Mathlib.Data.List.FinRange
import SqlShell.Proofs.Execution.Steps
import SqlShell.Proofs.Query.Order
/-!
# What a sort compares by

Sorting needs a comparison that is an order, or else its result says nothing. Here are the laws, for cells of any types in
any mix and for the key cells that a sort by some keys compares (`KeyCells`): both comparisons are linear orders, and they
are told by where the cells first differ (`compareKeys_eq_lt`). Lists of another length than the keys would not do, since
`compareKeys` takes a list that is too short to be equal to all others; but a sort only ever sees key cells
(`sortRows_eq_ok_iff`).
-/

namespace SqlShell

/-! ### Cells -/

namespace Cell

variable {a b : Cell}

instance : Std.LawfulEqCmp compare where
  compare_self := compare_eq_eq.2 rfl
  eq_of_compare := compare_eq_eq.1

theorem Before.compare (h : a.Before b) : a.compare b = .lt := by
  cases h with
  | null hne =>
    cases b with
    | null => exact absurd rfl hne
    | _ => rfl
  | boolean => rfl
  | int h => exact Std.compare_eq_lt.2 h
  | text h => exact compareOfLessAndEq_eq_lt.2 (String.lt_iff.2 h)

theorem type?_eq_of_rank_eq (h : a.rank = b.rank) : a.type? = b.type? := by
  cases a <;> cases b <;> first
    | rfl
    | simp [rank] at h

/-- The types come one behind the other, and the cells of one type are in their own order. -/
theorem compare_eq_lt : a.compare b = .lt ↔ a.rank < b.rank ∨ a.Before b := by
  constructor
  · intro h
    have hle : a.rank ≤ b.rank := rank_le_of_isLE (by rw [h]; rfl)
    rcases Nat.lt_or_eq_of_le hle with hlt | heq
    · exact .inl hlt
    · have hb : b.IsOf a.type? := type?_eq_of_rank_eq heq ▸ b.isOf_type?
      exact .inr (before_of_compare a.isOf_type? hb h)
  · rintro (hlt | hbefore)
    · rw [compare_of_rank_ne (Nat.ne_of_lt hlt)]
      exact Std.compare_eq_lt.2 hlt
    · exact hbefore.compare

end Cell

/-! ### Key cells -/

/-- One cell for each key. -/
abbrev KeyCells (flags : List Bool) :=
  { cells : List Cell // cells.length = flags.length }

/-- Compares key cells like rows with these keys. -/
def KeyCells.compare (flags : List Bool) (a b : KeyCells flags) : Ordering :=
  compareKeys flags a.1 b.1

/-- At the place the lists of cells differ for the first time, and there the first one comes first. -/
def ComesFirstAt (flags : List Bool) (place : Nat) (as bs : List Cell) : Prop :=
  as.take place = bs.take place ∧ ∃ descending ∈ flags[place]?, ∃ a ∈ as[place]?, ∃ b ∈ bs[place]?,
    if descending then b.compare a = .lt else a.compare b = .lt

section Cons

variable {descending : Bool} {flags : List Bool} {a b : Cell} {as bs : List Cell}

theorem comesFirstAt_zero : ComesFirstAt (descending :: flags) 0 (a :: as) (b :: bs) ↔
    if descending then b.compare a = .lt else a.compare b = .lt := by
  simp [ComesFirstAt]

theorem comesFirstAt_succ {place : Nat} : ComesFirstAt (descending :: flags) (place + 1) (a :: as) (b :: bs) ↔
    a = b ∧ ComesFirstAt flags place as bs := by
  simp only [ComesFirstAt, List.take_succ_cons, List.cons.injEq, List.getElem?_cons_succ, and_assoc]

end Cons

/-- Lists of cells are compared at the first place where they differ, the other way around if the key is descending. -/
theorem compareKeys_eq_lt {flags : List Bool} {as bs : List Cell} :
    compareKeys flags as bs = .lt ↔ ∃ place, ComesFirstAt flags place as bs := by
  induction flags generalizing as bs with
  | nil => simp [compareKeys, ComesFirstAt]
  | cons descending flags ih =>
    rcases as with _ | ⟨a, as⟩
    · simp [compareKeys, ComesFirstAt]
    rcases bs with _ | ⟨b, bs⟩
    · simp [compareKeys, ComesFirstAt]
    have hequal : (if descending then b.compare a else a.compare b) = .eq ↔ a = b := by
      cases descending with
      | false => exact Cell.compare_eq_eq
      | true => exact Cell.compare_eq_eq.trans eq_comm
    have hless : (if descending then b.compare a else a.compare b) = .lt ↔
        if descending then b.compare a = .lt else a.compare b = .lt := by
      cases descending <;> rfl
    rw [compareKeys_cons, Ordering.then_eq_lt, hequal, hless, ih]
    refine Iff.trans ?_ Nat.or_exists_add_one
    simp only [comesFirstAt_zero, comesFirstAt_succ, exists_and_left]

namespace KeyCells

variable (flags : List Bool)

instance : Std.LawfulEqCmp (compare flags) where
  compare_self {a} := (compareKeys_eq_eq a.2 a.2).2 rfl
  eq_of_compare {a b} h := Subtype.ext ((compareKeys_eq_eq a.2 b.2).1 h)

/-- The cells are what looking them up one after the other gives. -/
theorem map_get (cells : KeyCells flags) :
    ((List.finRange flags.length).map fun key => cells.1.get (key.cast cells.2.symm)) = cells.1 :=
  List.ext_getElem (by simp [cells.2]) (by simp)

instance : Std.TransCmp (compare flags) := by
  have h := transCmp_compareKeys flags
    ((List.finRange flags.length).map fun key (cells : KeyCells flags) => cells.1.get (key.cast cells.2.symm))
  simp only [List.map_map, Function.comp_def, map_get] at h
  exact h

end KeyCells

/-! ### Sorting -/

section Sorting

variable {keys : List Key} {rows sorted : List Row}

/-- What is found for a row: its cells for each key, and the row itself. -/
def IsKeyed (keys : List Key) (row : Row) (cells : List Cell) (found : Row) : Prop :=
  List.Forall₂ (fun key cell => key.1.evaluate row = .ok cell) keys cells ∧ found = row

theorem isKeyed_iff {row : Row} {pair : List Cell × Row} :
    (do return (← keys.mapM (·.1.evaluate row), row) : Except StatementError (List Cell × Row)) = .ok pair ↔
      IsKeyed keys row pair.1 pair.2 := by
  simp only [except_bind_eq_ok, except_pure_eq_ok, mapM_eq_ok, IsKeyed, Prod.ext_iff]
  constructor
  · rintro ⟨cells, hcells, rfl, rfl⟩
    exact ⟨hcells, rfl⟩
  · rintro ⟨hcells, rfl⟩
    exact ⟨_, hcells, rfl, rfl⟩

/-- Key cells without the proof that there is one for each key. -/
def KeyCells.forget (pair : KeyCells (keys.map (·.2)) × Row) : List Cell × Row :=
  (pair.1.1, pair.2)

/-- There is a cell for each key. -/
theorem exists_map_forget {keyed : List (List Cell × Row)}
    (h : List.Forall₂ (fun row pair => IsKeyed keys row pair.1 pair.2) rows keyed) :
    ∃ found : List (KeyCells (keys.map (·.2)) × Row), found.map KeyCells.forget = keyed := by
  induction h with
  | nil => exact ⟨[], rfl⟩
  | @cons row pair rows keyed hpair _ ih =>
    obtain ⟨found, rfl⟩ := ih
    have hlength : pair.1.length = (keys.map (·.2)).length := by rw [← hpair.1.length_eq, List.length_map]
    exact ⟨(⟨pair.1, hlength⟩, pair.2) :: found, rfl⟩

theorem mergeSort_map_forget (found : List (KeyCells (keys.map (·.2)) × Row)) :
    (found.map KeyCells.forget).mergeSort (fun a b => (compareKeys (keys.map (·.2)) a.1 b.1).isLE) =
      (found.mergeSort fun a b => (KeyCells.compare _ a.1 b.1).isLE).map KeyCells.forget := by
  have hcompare : ∀ a ∈ found, ∀ b ∈ found, (KeyCells.compare _ a.1 b.1).isLE =
      (compareKeys (keys.map (·.2)) (KeyCells.forget a).1 (KeyCells.forget b).1).isLE := fun _ _ _ _ => rfl
  exact (List.map_mergeSort hcompare).symm

/-- A sort finds the key cells of each row and arranges the rows by comparing them. -/
theorem sortRows_eq_ok_iff :
    sortRows keys rows = .ok sorted ↔
      ∃ found : List (KeyCells (keys.map (·.2)) × Row),
        List.Forall₂ (fun row pair => IsKeyed keys row pair.1.1 pair.2) rows found ∧
        sorted = (found.mergeSort fun a b => (KeyCells.compare _ a.1 b.1).isLE).map (·.2) := by
  rw [sortRows, except_bind_eq_ok]
  simp only [mapM_eq_ok, isKeyed_iff, except_pure_eq_ok]
  constructor
  · rintro ⟨keyed, hkeyed, rfl⟩
    obtain ⟨found, rfl⟩ := exists_map_forget hkeyed
    refine ⟨found, List.forall₂_map_right_iff.1 hkeyed, ?_⟩
    rw [mergeSort_map_forget, List.map_map]
    rfl
  · rintro ⟨found, hfound, rfl⟩
    refine ⟨found.map KeyCells.forget, List.forall₂_map_right_iff.2 hfound, ?_⟩
    rw [mergeSort_map_forget, List.map_map]
    rfl

end Sorting

/-! ### The laws -/

/-- Cells of any types are compared by a linear order, types first, and so are key cells, by the first place where they
differ. This is what a sort compares rows by. -/
theorem comparisons_are_linear_orders :
    (Std.TransCmp Cell.compare ∧ Std.LawfulEqCmp Cell.compare ∧
      ∀ a b : Cell, a.compare b = .lt ↔ a.rank < b.rank ∨ a.Before b) ∧
    (∀ flags : List Bool, Std.TransCmp (KeyCells.compare flags) ∧ Std.LawfulEqCmp (KeyCells.compare flags) ∧
      ∀ a b : KeyCells flags, KeyCells.compare flags a b = .lt ↔ ∃ place, ComesFirstAt flags place a.1 b.1) ∧
    ∀ (keys : List Key) (rows sorted : List Row), sortRows keys rows = .ok sorted ↔
      ∃ found : List (KeyCells (keys.map (·.2)) × Row),
        List.Forall₂ (fun row pair => IsKeyed keys row pair.1.1 pair.2) rows found ∧
        sorted = (found.mergeSort fun a b => (KeyCells.compare _ a.1 b.1).isLE).map (·.2) := by
  refine ⟨⟨inferInstance, inferInstance, fun a b => Cell.compare_eq_lt⟩, fun flags => ?_,
    fun keys rows sorted => sortRows_eq_ok_iff⟩
  exact ⟨inferInstance, inferInstance, fun a b => compareKeys_eq_lt⟩

/-- Cells of different types, and key cells where the first key is descending. -/
example : Cell.compare .null (.boolean false) = .lt ∧ Cell.compare (.int 9) (.text "") = .lt ∧
    compareKeys [true, false] [.int 1, .text "b"] [.null, .text "a"] = .lt ∧
    compareKeys [true, false] [.int 1, .text "b"] [.int 1, .text "a"] = .gt := by
  decide

end SqlShell
