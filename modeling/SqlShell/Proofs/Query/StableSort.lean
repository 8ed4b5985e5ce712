import Mathlib.Data.List.Perm.Basic
/-!
# Stable sorting

A list is sorted stably by a key if its items stand in the order of their keys and items with the same key stand as they
stood before. There is only one such arrangement of a list (`StablySorted.unique`), and merge sort by a
comparison of the keys finds it (`stablySorted_mergeSort`).
-/

namespace SqlShell

variable {α κ : Type} {keyOf : α → κ} {before : κ → κ → Prop}

/-- `ordered` has the items of `items` in the order of their keys. Items with equal keys keep their order. -/
structure StablySorted [DecidableEq κ] (keyOf : α → κ) (before : κ → κ → Prop) (items ordered : List α) : Prop where
  perm : ordered.Perm items
  sorted : ordered.Pairwise fun a b => before (keyOf a) (keyOf b) ∨ keyOf a = keyOf b
  stable : ∀ key, ordered.filter (keyOf · = key) = items.filter (keyOf · = key)

/-- The first item of a sorted list has the least key. -/
theorem before_or_eq_of_mem {a b : α} {items : List α}
    (h : (a :: items).Pairwise fun a b => before (keyOf a) (keyOf b) ∨ keyOf a = keyOf b) (hb : b ∈ a :: items) :
    before (keyOf a) (keyOf b) ∨ keyOf a = keyOf b := by
  rcases List.mem_cons.1 hb with rfl | hb
  · exact .inr rfl
  · exact (List.pairwise_cons.1 h).1 b hb

variable [DecidableEq κ]

theorem mem_iff_of_filter_eq {first second : List α}
    (h : ∀ key, first.filter (keyOf · = key) = second.filter (keyOf · = key)) (a : α) : a ∈ first ↔ a ∈ second := by
  have hkey : a ∈ first.filter (keyOf · = keyOf a) ↔ a ∈ second.filter (keyOf · = keyOf a) := by rw [h]
  simpa using hkey

/-- Sorted lists with the same items for each key are equal. -/
theorem eq_of_filter_eq (hasymm : ∀ k l, before k l → ¬before l k) {first second : List α}
    (hfirst : first.Pairwise fun a b => before (keyOf a) (keyOf b) ∨ keyOf a = keyOf b)
    (hsecond : second.Pairwise fun a b => before (keyOf a) (keyOf b) ∨ keyOf a = keyOf b)
    (h : ∀ key, first.filter (keyOf · = key) = second.filter (keyOf · = key)) : first = second := by
  induction first generalizing second with
  | nil =>
    cases second with
    | nil => rfl
    | cons b second => exact absurd ((mem_iff_of_filter_eq h b).2 List.mem_cons_self) List.not_mem_nil
  | cons a first ih =>
    cases second with
    | nil => exact absurd ((mem_iff_of_filter_eq h a).1 List.mem_cons_self) List.not_mem_nil
    | cons b second =>
      have hkeys : keyOf a = keyOf b := by
        rcases before_or_eq_of_mem hfirst ((mem_iff_of_filter_eq h b).2 List.mem_cons_self) with hab | heq
        · rcases before_or_eq_of_mem hsecond ((mem_iff_of_filter_eq h a).1 List.mem_cons_self) with hba | heq
          · exact absurd hba (hasymm _ _ hab)
          · exact heq.symm
        · exact heq
      have hhead := h (keyOf a)
      rw [List.filter_cons_of_pos (by simp), List.filter_cons_of_pos (by simp [hkeys])] at hhead
      obtain ⟨rfl, -⟩ := List.cons.inj hhead
      have htails (key : κ) : first.filter (keyOf · = key) = second.filter (keyOf · = key) := by
        have hkey := h key
        by_cases heq : keyOf a = key
        · rw [List.filter_cons_of_pos (by simpa using heq), List.filter_cons_of_pos (by simpa using heq)] at hkey
          exact (List.cons.inj hkey).2
        · rwa [List.filter_cons_of_neg (by simpa using heq), List.filter_cons_of_neg (by simpa using heq)] at hkey
      rw [ih (List.pairwise_cons.1 hfirst).2 (List.pairwise_cons.1 hsecond).2 htails]

theorem StablySorted.unique (hasymm : ∀ k l, before k l → ¬before l k) {items ordered other : List α}
    (h : StablySorted keyOf before items ordered) (h' : StablySorted keyOf before items other) : other = ordered :=
  eq_of_filter_eq hasymm h'.sorted h.sorted fun key => (h'.stable key).trans (h.stable key).symm

/-- Merge sort by a comparison that agrees with the order of the keys sorts stably. -/
theorem stablySorted_mergeSort {compare : α → α → Ordering} [Std.TransCmp compare] {items : List α}
    (hlt : ∀ a ∈ items, ∀ b ∈ items, compare a b = .lt → before (keyOf a) (keyOf b))
    (heq : ∀ a b, compare a b = .eq ↔ keyOf a = keyOf b) :
    StablySorted keyOf before items (items.mergeSort fun a b => (compare a b).isLE) := by
  have htrans (a b c : α) (hab : (compare a b).isLE = true) (hbc : (compare b c).isLE = true) :
      (compare a c).isLE = true := Std.TransCmp.isLE_trans hab hbc
  have htotal (a b : α) : ((compare a b).isLE || (compare b a).isLE) = true := by
    have hswap : compare b a = (compare a b).swap := Std.OrientedCmp.eq_swap
    rw [hswap]
    cases compare a b <;> rfl
  refine ⟨List.mergeSort_perm _ _, ?_, fun key => ?_⟩
  · refine (List.pairwise_mergeSort htrans htotal items).imp_of_mem fun {a b} ha hb hle => ?_
    rw [List.mem_mergeSort] at ha hb
    cases hcompare : compare a b with
    | lt => exact .inl (hlt a ha b hb hcompare)
    | eq => exact .inr ((heq a b).1 hcompare)
    | gt => simp [hcompare] at hle
  · -- The items with one key are a sorted sublist, and merge sort keeps those.
    have hpairs : (items.filter (keyOf · = key)).Pairwise fun a b => (compare a b).isLE = true := by
      refine List.pairwise_of_forall_mem_list fun a ha b hb => ?_
      have hkeys : keyOf a = keyOf b := by
        rw [List.mem_filter, decide_eq_true_eq] at ha hb
        exact ha.2.trans hb.2.symm
      rw [(heq a b).2 hkeys]
      rfl
    have hsublist := (List.sublist_mergeSort htrans htotal hpairs List.filter_sublist).filter (keyOf · = key)
    simp only [List.filter_filter, Bool.and_self] at hsublist
    have hlength := ((List.mergeSort_perm items fun a b => (compare a b).isLE).filter (keyOf · = key)).length_eq
    exact (hsublist.eq_of_length hlength.symm).symm

end SqlShell
