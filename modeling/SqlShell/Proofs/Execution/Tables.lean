import Mathlib.Data.List.Perm.Basic
import Mathlib.Data.List.Nodup
import SqlShell.Catalog
/-!
# Catalogs as maps

A catalog is known by the tables that it has under the names: `table?_put` and `table?_erase` say what these are after a
table has been put or taken out, and `ext_table?` that catalogs with the same tables under all names are equal.
-/

namespace SqlShell.Catalog

variable {name other : String} {table : Table} {entries : List (String × Table)} {catalog : Catalog}

theorem lookup_cons (entry : String × Table) : (entry :: entries).lookup name =
    if name = entry.1 then some entry.2 else entries.lookup name := by
  rw [List.lookup_cons]
  by_cases h : name = entry.1
  · rw [if_pos h, h, beq_self_eq_true]
  · rw [if_neg h, beq_false_of_ne h]

theorem lookup_putEntry : (putEntry name table entries).lookup other =
    if other = name then some table else entries.lookup other := by
  fun_induction putEntry name table entries with
  | case1 => rw [lookup_cons]
  | case2 => rw [lookup_cons]
  | case3 entry rest _ heq =>
    rw [lookup_cons, lookup_cons, ← heq]
    by_cases h : other = name <;> simp [h]
  | case4 entry rest _ hne ih =>
    rw [lookup_cons, lookup_cons, ih]
    by_cases h : other = entry.1
    · rw [if_pos h, if_pos h, if_neg (h ▸ Ne.symm hne)]
    · rw [if_neg h, if_neg h]

theorem table?_put : (catalog.put name table).table? other =
    if other = name then some table else catalog.table? other :=
  lookup_putEntry

theorem table?_put_self : (catalog.put name table).table? name = some table := by
  rw [table?_put, if_pos rfl]

theorem table?_put_of_ne (h : other ≠ name) : (catalog.put name table).table? other = catalog.table? other := by
  rw [table?_put, if_neg h]

/-! ### Equal catalogs -/

theorem lookup_eq_some_iff_mem (h : (entries.map (·.1)).Nodup) :
    entries.lookup name = some table ↔ (name, table) ∈ entries := by
  induction entries with
  | nil => simp
  | cons entry entries ih =>
    obtain ⟨hfresh, hrest⟩ := List.nodup_cons.1 h
    rw [lookup_cons, List.mem_cons]
    by_cases hname : name = entry.1
    · have hnot : (name, table) ∉ entries := fun hmem => hfresh (List.mem_map.2 ⟨_, hmem, hname⟩)
      rw [if_pos hname, Prod.ext_iff, Option.some_inj, or_iff_left hnot]
      exact ⟨fun h => ⟨hname, h.symm⟩, fun h => h.2.symm⟩
    · simp [hname, ih hrest, Prod.ext_iff]

theorem nodup_names (catalog : Catalog) : (catalog.entries.map (·.1)).Nodup := by
  rw [List.Nodup, List.pairwise_map]
  exact catalog.sorted.imp fun hlt => Std.ne_of_lt hlt

theorem table?_eq_some_iff : catalog.table? name = some table ↔ (name, table) ∈ catalog.entries :=
  lookup_eq_some_iff_mem catalog.nodup_names

/-- Catalogs with the same table under every name are equal. -/
theorem ext_table? {first second : Catalog} (h : ∀ name, first.table? name = second.table? name) : first = second := by
  have hmem (entry : String × Table) : entry ∈ first.entries ↔ entry ∈ second.entries := by
    rw [← table?_eq_some_iff, ← table?_eq_some_iff, h]
  have hperm : first.entries.Perm second.entries :=
    (List.perm_ext_iff_of_nodup first.nodup_names.of_map second.nodup_names.of_map).2 hmem
  refine Catalog.ext (List.Perm.eq_of_pairwise (fun a b _ _ hab hba => ?_) first.sorted second.sorted hperm)
  exact absurd (String.lt_trans hab hba) (String.lt_irrefl _)

theorem put_put {later : Table} : (catalog.put name table).put name later = catalog.put name later := by
  refine ext_table? fun other => ?_
  rw [table?_put, table?_put, table?_put]
  split <;> rfl

theorem put_self (h : catalog.table? name = some table) : catalog.put name table = catalog := by
  refine ext_table? fun other => ?_
  rw [table?_put]
  split
  · next heq => rw [heq, h]
  · rfl

theorem table?_erase : (catalog.erase name).table? other = if other = name then none else catalog.table? other := by
  have hfilter (entries : List (String × Table)) : (entries.filter (·.1 ≠ name)).lookup other =
      if other = name then none else entries.lookup other := by
    induction entries with
    | nil => simp
    | cons entry entries ih =>
      by_cases hentry : entry.1 = name
      · rw [List.filter_cons_of_neg (by simpa using hentry), ih, lookup_cons, hentry]
        split <;> rfl
      · rw [List.filter_cons_of_pos (by simpa using hentry), lookup_cons, lookup_cons, ih]
        by_cases hother : other = entry.1
        · rw [if_pos hother, if_pos hother, if_neg (hother ▸ hentry)]
        · rw [if_neg hother, if_neg hother]
  exact hfilter catalog.entries

theorem table?_erase_self : (catalog.erase name).table? name = none := by
  rw [table?_erase, if_pos rfl]

theorem table?_erase_of_ne (h : other ≠ name) : (catalog.erase name).table? other = catalog.table? other := by
  rw [table?_erase, if_neg h]

theorem erase_of_table?_eq_none (h : catalog.table? name = none) : catalog.erase name = catalog := by
  refine Catalog.ext (List.filter_eq_self.2 fun entry hentry => decide_eq_true fun heq => ?_)
  have hfound : catalog.table? entry.1 = some entry.2 := table?_eq_some_iff.2 hentry
  rw [heq, h] at hfound
  exact Option.some_ne_none _ hfound.symm

end SqlShell.Catalog
