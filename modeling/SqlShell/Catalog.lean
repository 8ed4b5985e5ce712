import SqlShell.Table
/-!
# Catalogs

A catalog maps names to tables. It is kept as a list in ascending order of names, so that there is one list for
each mapping: two catalogs are equal if they hold the same table under every name.
-/

namespace SqlShell

/-- The tables of a database by name, in ascending order of names. -/
@[ext] structure Catalog where
  entries : List (String × Table)
  sorted : entries.Pairwise (·.1 < ·.1)

namespace Catalog

/-- The catalog without tables. -/
def empty : Catalog :=
  ⟨[], .nil⟩

instance : Inhabited Catalog := ⟨empty⟩

/-- The table of a name. -/
def table? (catalog : Catalog) (name : String) : Option Table :=
  catalog.entries.lookup name

/-- The names of the tables, in ascending order. -/
def names (catalog : Catalog) : List String :=
  catalog.entries.map (·.1)

/-- Puts a table under its name into a sorted list, in place of the one that has the name. -/
def putEntry (name : String) (table : Table) : List (String × Table) → List (String × Table)
  | [] => [(name, table)]
  | entry :: rest =>
    if name < entry.1 then (name, table) :: entry :: rest
    else if name = entry.1 then (name, table) :: rest
    else entry :: putEntry name table rest

theorem mem_putEntry {name : String} {table : Table} {entries : List (String × Table)} {e : String × Table}
    (h : e ∈ putEntry name table entries) : e = (name, table) ∨ e ∈ entries := by
  fun_induction putEntry name table entries with
  | case1 => simpa using h
  | case2 => simpa using h
  | case3 _ rest =>
    rcases List.mem_cons.1 h with h | h
    · exact .inl h
    · exact .inr (List.mem_cons_of_mem _ h)
  | case4 entry rest _ _ ih =>
    rcases List.mem_cons.1 h with rfl | h
    · exact .inr List.mem_cons_self
    · exact (ih h).imp id (List.mem_cons_of_mem _)

theorem putEntry_sorted {name : String} {table : Table} {entries : List (String × Table)}
    (h : entries.Pairwise (·.1 < ·.1)) : (putEntry name table entries).Pairwise (·.1 < ·.1) := by
  fun_induction putEntry name table entries with
  | case1 => simp
  | case2 entry rest hlt =>
    refine List.pairwise_cons.2 ⟨fun e he => ?_, h⟩
    rcases List.mem_cons.1 he with rfl | he
    · exact hlt
    · exact String.lt_trans hlt ((List.pairwise_cons.1 h).1 e he)
  | case3 entry rest _ heq =>
    obtain ⟨hfirst, hrest⟩ := List.pairwise_cons.1 h
    exact List.pairwise_cons.2 ⟨fun e he => by simpa [heq] using hfirst e he, hrest⟩
  | case4 entry rest hnot hne ih =>
    obtain ⟨hfirst, hrest⟩ := List.pairwise_cons.1 h
    refine List.pairwise_cons.2 ⟨fun e he => ?_, ih hrest⟩
    rcases mem_putEntry he with rfl | he
    · exact Std.lt_of_le_of_ne (String.not_lt.1 hnot) (Ne.symm hne)
    · exact hfirst e he

/-- The catalog with a table under a name, in place of the one that has the name. -/
def put (catalog : Catalog) (name : String) (table : Table) : Catalog :=
  ⟨putEntry name table catalog.entries, putEntry_sorted catalog.sorted⟩

/-- The catalog without the table of a name. -/
def erase (catalog : Catalog) (name : String) : Catalog :=
  ⟨catalog.entries.filter (·.1 ≠ name), catalog.sorted.filter _⟩

end Catalog

/-- The shape of a table: the names and types of its columns, and how many rows it has. -/
structure TableShape where
  columns : List String
  types : List ColumnType
  rowCount : Nat
deriving DecidableEq, Inhabited

/-- The shape of a table. -/
def Table.shape (table : Table) : TableShape :=
  ⟨table.columns.map (·.name), table.columns.map (·.type), table.rows.length⟩

/-- The shapes of all tables by name, in ascending order of names. -/
def Catalog.shapes (catalog : Catalog) : List (String × TableShape) :=
  catalog.entries.map fun (name, table) => (name, table.shape)

end SqlShell
