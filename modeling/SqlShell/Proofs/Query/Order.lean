import SqlShell.Execution.Query
import SqlShell.Proofs.Execution.Typing
/-!
# The order of rows

Rows are compared by the cells of their keys. `Cell.Before` and `KeysBefore` say in which order cells and lists of
cells come; both are asymmetric. The comparisons that the executor uses are orders too, and they agree with these
relations wherever the cells of each key are of one type.
-/

namespace SqlShell

/-! ### Cells -/

/-- NULL comes before values, false before true, ints are in numeric order and texts in the order of code points. -/
inductive Cell.Before : Cell → Cell → Prop
  | null {cell : Cell} (h : cell ≠ .null) : Before .null cell
  | boolean : Before (.boolean false) (.boolean true)
  | int {a b : Int64} (h : a.toInt < b.toInt) : Before (.int a) (.int b)
  | text {a b : String} (h : a.toList < b.toList) : Before (.text a) (.text b)

namespace Cell

variable {a b : Cell}

theorem Before.asymm (h : a.Before b) : ¬b.Before a := by
  intro h'
  cases h with
  | null hne =>
    cases h' with
    | null => exact hne rfl
  | boolean => cases h'
  | int h =>
    cases h' with
    | int h' => omega
  | text h =>
    cases h' with
    | text h' => exact List.lt_asymm h h'

instance : Std.OrientedCmp compare where
  eq_swap {a b} := by
    cases a <;> cases b <;> exact Std.OrientedOrd.eq_swap

theorem compare_of_rank_ne (h : a.rank ≠ b.rank) : a.compare b = Ord.compare a.rank b.rank := by
  cases a <;> cases b <;> first
    | rfl
    | exact absurd rfl h

theorem rank_le_of_isLE (h : (a.compare b).isLE = true) : a.rank ≤ b.rank := by
  by_cases heq : a.rank = b.rank
  · exact Nat.le_of_eq heq
  · rw [compare_of_rank_ne heq] at h
    exact Std.isLE_compare.1 h

theorem isLE_of_rank_lt (h : a.rank < b.rank) : (a.compare b).isLE = true := by
  rw [compare_of_rank_ne (Nat.ne_of_lt h)]
  exact Std.isLE_compare.2 (Nat.le_of_lt h)

instance : Std.TransCmp compare where
  isLE_trans {a b c} hab hbc := by
    have hab' := rank_le_of_isLE hab
    have hbc' := rank_le_of_isLE hbc
    by_cases hlt : a.rank < c.rank
    · exact isLE_of_rank_lt hlt
    · -- All three are of one type, and each type has its own order.
      have hb : b.rank = a.rank := by omega
      have hc : c.rank = a.rank := by omega
      cases a <;> cases b <;> simp [rank] at hb <;> cases c <;> simp [rank] at hc
      · exact Std.TransOrd.isLE_trans hab hbc
      · exact Std.TransOrd.isLE_trans hab hbc
      · exact Std.TransOrd.isLE_trans hab hbc
      · rfl

theorem compare_eq_eq : a.compare b = .eq ↔ a = b := by
  cases a <;> cases b <;> simp [compare, rank, ← Int64.toInt_inj]

/-- Cells of one type are compared by their order. -/
theorem before_of_compare {type : Option ColumnType} (ha : a.IsOf type) (hb : b.IsOf type) (h : a.compare b = .lt) :
    a.Before b := by
  have hne : b ≠ .null := by
    rintro rfl
    have hle := rank_le_of_isLE (a := a) (b := .null) (by rw [h]; rfl)
    cases a with
    | null => simp [compare] at h
    | _ => exact absurd hle (by simp [rank])
  rcases ha with rfl | ha
  · exact .null hne
  · replace hb := hb.resolve_left hne
    rw [← hb] at ha
    cases a <;> cases b <;> simp [type?] at ha
    · exact .int (Std.compare_eq_lt.1 h)
    · next x y => exact .text (String.lt_iff.1 (compareOfLessAndEq_eq_lt.1 h))
    · next x y =>
      obtain ⟨rfl, rfl⟩ : x = false ∧ y = true := by
        revert h
        cases x <;> cases y <;> decide
      exact .boolean
    · exact absurd rfl hne

end Cell

/-! ### Lists of cells -/

/-- The first cells that differ are in order, or in reverse order where the key is descending. -/
inductive KeysBefore : List Bool → List Cell → List Cell → Prop
  | first {descending : Bool} {flags : List Bool} {a b : Cell} {as bs : List Cell}
      (h : if descending then b.Before a else a.Before b) : KeysBefore (descending :: flags) (a :: as) (b :: bs)
  | later {descending : Bool} {flags : List Bool} {a : Cell} {as bs : List Cell} (h : KeysBefore flags as bs) :
      KeysBefore (descending :: flags) (a :: as) (a :: bs)

theorem KeysBefore.asymm {flags : List Bool} {as bs : List Cell} (h : KeysBefore flags as bs) :
    ¬KeysBefore flags bs as := by
  have hne {descending : Bool} {a b : Cell} (h : if descending then b.Before a else a.Before b) :
      ¬if descending then a.Before b else b.Before a := by
    cases descending <;> exact Cell.Before.asymm h
  induction h with
  | first h =>
    intro h'
    cases h' with
    | first h' => exact hne h h'
    | later h' => exact hne h h
  | later h ih =>
    intro h'
    cases h' with
    | first h' => exact hne h' h'
    | later h' => exact ih h'

theorem compareKeys_cons (descending : Bool) (flags : List Bool) (a b : Cell) (as bs : List Cell) :
    compareKeys (descending :: flags) (a :: as) (b :: bs) =
      (if descending then b.compare a else a.compare b).then (compareKeys flags as bs) := by
  rw [compareKeys, ← Std.OrientedCmp.eq_swap]

/-- Lists of cells of the same types are compared by their order. -/
theorem keysBefore_of_compareKeys {flags : List Bool} {types : List (Option ColumnType)} {as bs : List Cell}
    (ha : List.Forall₂ Cell.IsOf as types) (hb : List.Forall₂ Cell.IsOf bs types)
    (h : compareKeys flags as bs = .lt) : KeysBefore flags as bs := by
  induction flags generalizing types as bs with
  | nil => simp [compareKeys] at h
  | cons descending flags ih =>
    cases ha with
    | nil =>
      obtain rfl := List.forall₂_nil_right_iff.1 hb
      simp [compareKeys] at h
    | @cons a type as types ha has =>
      obtain ⟨b, bs, hcell, hbs, rfl⟩ := List.forall₂_cons_right_iff.1 hb
      rw [compareKeys_cons, Ordering.then_eq_lt] at h
      rcases h with hfirst | ⟨hequal, hrest⟩
      · refine .first ?_
        cases descending with
        | false => exact Cell.before_of_compare ha hcell hfirst
        | true => exact Cell.before_of_compare hcell ha hfirst
      · obtain rfl : a = b := by
          cases descending with
          | false => exact Cell.compare_eq_eq.1 hequal
          | true => exact (Cell.compare_eq_eq.1 hequal).symm
        exact .later (ih has hbs hrest)

theorem compareKeys_eq_eq {flags : List Bool} {as bs : List Cell} (ha : as.length = flags.length)
    (hb : bs.length = flags.length) : compareKeys flags as bs = .eq ↔ as = bs := by
  induction flags generalizing as bs with
  | nil =>
    rw [List.length_eq_zero_iff.1 ha, List.length_eq_zero_iff.1 hb]
    simp [compareKeys]
  | cons descending flags ih =>
    obtain ⟨a, as, rfl⟩ := List.exists_cons_of_length_eq_add_one ha
    obtain ⟨b, bs, rfl⟩ := List.exists_cons_of_length_eq_add_one hb
    have hrest : compareKeys flags as bs = .eq ↔ as = bs := ih (by simpa using ha) (by simpa using hb)
    rw [compareKeys_cons, Ordering.then_eq_eq, hrest, List.cons.injEq]
    cases descending with
    | false => rw [if_neg Bool.false_ne_true, Cell.compare_eq_eq]
    | true => rw [if_pos rfl, Cell.compare_eq_eq, eq_comm (a := b)]

theorem transCmp_of_eq {α : Type} {cmp : α → α → Ordering} (h : ∀ a b, cmp a b = .eq) : Std.TransCmp cmp where
  eq_swap := by simp [h]
  isLE_trans := by simp [h]

/-- Comparing by keys that are computed from what is compared is an order. -/
theorem transCmp_compareKeys {α : Type} (flags : List Bool) (keys : List (α → Cell)) :
    Std.TransCmp fun a b => compareKeys flags (keys.map (· a)) (keys.map (· b)) := by
  induction flags generalizing keys with
  | nil => exact transCmp_of_eq fun _ _ => by simp [compareKeys]
  | cons descending flags ih =>
    cases keys with
    | nil => exact transCmp_of_eq fun _ _ => by simp [compareKeys]
    | cons key keys =>
      have hrest := ih keys
      let first (a b : α) : Ordering := if descending then (key b).compare (key a) else (key a).compare (key b)
      have hfirst : Std.TransCmp first := by
        have hkey : Std.TransCmp fun a b => (key a).compare (key b) :=
          { eq_swap := Std.OrientedCmp.eq_swap, isLE_trans := Std.TransCmp.isLE_trans }
        cases descending with
        | false => exact hkey
        | true => exact @Std.TransCmp.opposite _ _ hkey
      have hcompare :
          (fun a b => compareKeys (descending :: flags) ((key :: keys).map (· a)) ((key :: keys).map (· b))) =
            compareLex first fun a b => compareKeys flags (keys.map (· a)) (keys.map (· b)) := by
        funext a b
        exact compareKeys_cons ..
      rw [hcompare]
      infer_instance

end SqlShell
