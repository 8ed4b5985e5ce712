import SqlShell.Catalog
import SqlShell.Proofs.Execution.Steps
import SqlShell.Proofs.Numeral.Decimal
import SqlShell.Proofs.Parsing.Takes
import SqlShell.Proofs.Printing.Token
/-!
# Dumps

A dump is a text that makes given tables again: for each table a CREATE TABLE, and one INSERT for its rows if it has
any. Names stand in double quotes and texts in single quotes, so that they may hold anything. This module says what a
dump is and which kinds of tokens it scans as.
-/

namespace SqlShell

open Text

namespace Dump

/-! ### The text of a dump -/

/-- A name in double quotes. -/
def name (name : String) : String :=
  String.ofList (Quoted.encode '"' name.toList)

/-- An int in decimal, a text in single quotes, `true`, `false` or `NULL`. -/
def cell : Cell → String
  | .int value => toString value.toInt
  | .text contents => String.ofList (Quoted.encode '\'' contents.toList)
  | .boolean value => truthSpelling value
  | .null => "NULL"

/-- The definition of a column. -/
def column (column : Column) : String :=
  name column.name ++ " " ++ column.type.name ++ (if column.nullable then "" else " NOT NULL")

/-- Items in parentheses. -/
def list (items : List String) : String :=
  "(" ++ ", ".intercalate items ++ ")"

/-- The statement that makes a table without rows. -/
def create (table : String × Table) : String :=
  "CREATE TABLE " ++ name table.1 ++ " " ++ list (table.2.columns.map column)

/-- The statement that inserts all rows of a table in order. -/
def insert (table : String × Table) : String :=
  "INSERT INTO " ++ name table.1 ++ " VALUES " ++ ", ".intercalate (table.2.rows.map fun row => list (row.map cell))

/-- The statements that make a table. -/
def statements (table : String × Table) : List String :=
  if table.2.rows.isEmpty then [create table] else [create table, insert table]

/-- The text that makes tables, in their order. -/
def text (tables : List (String × Table)) : String :=
  ";\n".intercalate (tables.flatMap statements)

/-! ### The kinds of tokens in a dump -/

def listKinds (items : List (List Token.Kind)) : List Token.Kind :=
  .symbol .leftParen :: (separated .comma items ++ [.symbol .rightParen])

def numeralKind (magnitude : Nat) : Token.Kind :=
  .numeral magnitude.repr

def cellKinds : Cell → List Token.Kind
  | .int value =>
    if value.toInt < 0 then [.symbol .minus, numeralKind value.toInt.natAbs] else [numeralKind value.toInt.natAbs]
  | .text contents => [.string contents]
  | .boolean value => [.boolean value]
  | .null => [.keyword .null]

def typeKeyword : ColumnType → Keyword
  | .int => .int
  | .text => .text
  | .boolean => .boolean

def columnKinds (column : Column) : List Token.Kind :=
  .identifier column.name :: .keyword (typeKeyword column.type) ::
    if column.nullable then [] else [.keyword .not, .keyword .null]

def createKinds (table : String × Table) : List Token.Kind :=
  [.keyword .create, .keyword .table, .identifier table.1] ++ listKinds (table.2.columns.map columnKinds)

def insertKinds (table : String × Table) : List Token.Kind :=
  [.keyword .insert, .keyword .into, .identifier table.1, .keyword .values] ++
    separated .comma (table.2.rows.map fun row => listKinds (row.map cellKinds))

def statementKinds (table : String × Table) : List (List Token.Kind) :=
  if table.2.rows.isEmpty then [createKinds table] else [createKinds table, insertKinds table]

def kinds (tables : List (String × Table)) : List Token.Kind :=
  separated .semicolon (tables.flatMap statementKinds)

/-! ### The pieces of a dump -/

/-- Items in parentheses, which may stand on lines of their own. -/
theorem leads_parenthesized {opening separator closing : List Char} (hopening : Leads opening [.symbol .leftParen])
    (hseparator : Leads separator [.symbol .comma]) (hbreaks : separator.head?.any (· ∈ breakers) = true)
    (hclosing : Leads closing [.symbol .rightParen]) (hends : closing.head?.any (· ∈ breakers) = true)
    {items : List String} {kinds : List (List Token.Kind)}
    (h : List.Forall₂ (fun item kinds => Spells item.toList kinds) items kinds) :
    Leads (opening ++ separator.intercalate (items.map String.toList) ++ closing) (listKinds kinds) := by
  have hitems : List.Forall₂ Spells (items.map String.toList) kinds := List.forall₂_map_left_iff.2 h
  have hwhole := (hopening.append (spells_intercalate hseparator hbreaks hitems)).append_leads hclosing hends
  simpa [listKinds, separated] using hwhole

theorem leads_leftParen : Leads ['('] [.symbol .leftParen] :=
  leads_symbol .leftParen rfl rfl (by decide)

theorem leads_rightParen : Leads [')'] [.symbol .rightParen] :=
  leads_symbol .rightParen rfl rfl (by decide)

theorem leads_list {items : List String} {kinds : List (List Token.Kind)}
    (h : List.Forall₂ (fun item kinds => Spells item.toList kinds) items kinds) :
    Leads (list items).toList (listKinds kinds) := by
  have hwhole := leads_parenthesized leads_leftParen leads_comma (by decide) leads_rightParen (by decide) h
  simpa [list] using hwhole

theorem spells_name (s : String) : Spells (name s).toList [.identifier s] := by
  have hspellable : (Token.Kind.identifier s).IsSpellable := trivial
  exact hspellable.spells

theorem isSpellable_numeralKind (n : Nat) : (numeralKind n).IsSpellable := by
  have hne : n.repr.toList ≠ [] := by
    rw [Nat.toList_repr]
    exact Nat.toDigits_ne_nil
  have hnumber : Numeral.IsNumber n.repr.toList :=
    ⟨_, [], .whole hne fun _ => Numeral.isDigit_of_mem_repr, .absent, (List.append_nil _).symm⟩
  exact Numeral.split?_eq_some_iff.2 ⟨hnumber, (List.append_nil _).symm, stops_nil⟩

theorem spells_int (value : Int64) : Spells (cell (.int value)).toList (cellKinds (.int value)) := by
  intro rest more hbreaks hrest
  have hmagnitude : Scans false (value.toInt.natAbs.repr.toList ++ rest) (numeralKind value.toInt.natAbs :: more) :=
    (isSpellable_numeralKind value.toInt.natAbs).spells rest more hbreaks hrest
  simp only [cell, cellKinds, Int.toString_eq_repr, Int.repr_eq_if]
  by_cases hnegative : value.toInt < 0
  · have habs : (-value.toInt).toNat = value.toInt.natAbs := by omega
    rw [if_neg (by omega), if_pos hnegative, habs, String.toList_append, List.append_assoc]
    have hsign : (Token.Kind.symbol .minus).Spelled "-".toList (value.toInt.natAbs.repr.toList ++ rest) :=
      .symbol .minus fun _ _ => rfl
    refine .token hsign ?_ hmagnitude
    -- no second minus sign makes a comment of the first one
    obtain ⟨hnumber, -⟩ := Numeral.split?_eq_some_iff.1 (isSpellable_numeralKind value.toInt.natAbs)
    obtain ⟨d, ds, hdigits, hd⟩ := hnumber.eq_cons
    have hblank : isBlank '-' = false := by decide
    have hminus : d ≠ '-' := by
      rintro rfl
      simp at hd
    simp [opensGap, hdigits, hblank, hminus]
  · have habs : value.toInt.toNat = value.toInt.natAbs := by omega
    rw [if_pos (by omega), if_neg hnegative, habs]
    exact hmagnitude

theorem spells_cell (c : Cell) : Spells (cell c).toList (cellKinds c) := by
  cases c with
  | int value => exact spells_int value
  | text contents =>
    have hspellable : (Token.Kind.string contents).IsSpellable := trivial
    exact hspellable.spells
  | boolean value =>
    have hspellable : (Token.Kind.boolean value).IsSpellable := trivial
    exact hspellable.spells
  | null => exact spells_word (by decide) (by decide) (by decide)

/-- The definition of a column, however its name is written. -/
theorem spells_definition (c : Column) {written : String} (hname : Spells written.toList [.identifier c.name]) :
    Spells (written ++ " " ++ c.type.name ++ (if c.nullable then "" else " NOT NULL")).toList (columnKinds c) := by
  have htype : Spells c.type.name.toList [.keyword (typeKeyword c.type)] := by
    cases c.type <;> exact spells_word (by decide) (by decide) (by decide)
  have hplain := (hname.append_leads leads_blank rfl).append htype
  cases hnullable : c.nullable with
  | false =>
    have hnot : Spells "NOT".toList [.keyword .not] := spells_word (by decide) (by decide) (by decide)
    have hnull : Spells "NULL".toList [.keyword .null] := spells_word (by decide) (by decide) (by decide)
    have hclause := (((hplain.append_leads leads_blank rfl).append hnot).append_leads leads_blank rfl).append hnull
    simpa [columnKinds, hnullable] using hclause
  | true => simpa [columnKinds, hnullable] using hplain

theorem spells_column (c : Column) : Spells (column c).toList (columnKinds c) :=
  spells_definition c (spells_name c.name)

/-- The words in front of the column definitions, however the name is written. -/
theorem leads_createTable {table : String} {written : String} (hname : Spells written.toList [.identifier table]) :
    Leads ("CREATE TABLE " ++ written ++ " ").toList [.keyword .create, .keyword .table, .identifier table] := by
  have hcreate : Spells "CREATE".toList [.keyword .create] := spells_word (by decide) (by decide) (by decide)
  have htable : Spells "TABLE".toList [.keyword .table] := spells_word (by decide) (by decide) (by decide)
  have hwords := ((hcreate.append_leads leads_blank rfl).append htable).append_leads leads_blank rfl
  simpa using (hwords.append hname).append_leads leads_blank rfl

/-- The words in front of rows, however the name is written. -/
theorem leads_insertInto {table : String} {written : String} (hname : Spells written.toList [.identifier table]) :
    Leads ("INSERT INTO " ++ written ++ " VALUES ").toList
      [.keyword .insert, .keyword .into, .identifier table, .keyword .values] := by
  have hinsert : Spells "INSERT".toList [.keyword .insert] := spells_word (by decide) (by decide) (by decide)
  have hinto : Spells "INTO".toList [.keyword .into] := spells_word (by decide) (by decide) (by decide)
  have hvalues : Spells "VALUES".toList [.keyword .values] := spells_word (by decide) (by decide) (by decide)
  have hwords := ((hinsert.append_leads leads_blank rfl).append hinto).append_leads leads_blank rfl
  have hwhole := ((hwords.append hname).append_leads leads_blank rfl).append hvalues
  simpa using hwhole.append_leads leads_blank rfl

/-! ### Whole dumps -/

theorem spells_create (table : String × Table) : Spells (create table).toList (createKinds table) := by
  have hcolumns : Leads (list (table.2.columns.map column)).toList (listKinds (table.2.columns.map columnKinds)) :=
    leads_list (forall₂_map_map fun c _ => spells_column c)
  have hwhole := (leads_createTable (spells_name table.1)).append hcolumns.spells
  unfold create
  simpa [createKinds] using hwhole

theorem spells_insert (table : String × Table) : Spells (insert table).toList (insertKinds table) := by
  have hrow (row : Row) : Spells (list (row.map cell)).toList (listKinds (row.map cellKinds)) :=
    (leads_list (forall₂_map_map fun c _ => spells_cell c)).spells
  have hrows : List.Forall₂ Spells (table.2.rows.map fun row => (list (row.map cell)).toList)
      (table.2.rows.map fun row => listKinds (row.map cellKinds)) :=
    forall₂_map_map fun row _ => hrow row
  have hwhole := (leads_insertInto (spells_name table.1)).append (spells_intercalate leads_comma rfl hrows)
  unfold insert
  simpa [insertKinds, separated, Function.comp_def] using hwhole

theorem spells_statements (table : String × Table) :
    List.Forall₂ Spells ((statements table).map String.toList) (statementKinds table) := by
  by_cases hrows : table.2.rows.isEmpty = true
  · simpa [statements, statementKinds, hrows] using spells_create table
  · simpa [statements, statementKinds, hrows] using And.intro (spells_create table) (spells_insert table)

/-- The text of a dump scans as its kinds. -/
theorem scans_text (tables : List (String × Table)) : Scans false (text tables).toList (kinds tables) := by
  have hall : List.Forall₂ Spells ((tables.flatMap statements).map String.toList) (tables.flatMap statementKinds) := by
    induction tables with
    | nil => exact .nil
    | cons table tables ih =>
      rw [List.flatMap_cons, List.flatMap_cons, List.map_append]
      exact List.rel_append (spells_statements table) ih
  simpa [text, kinds, separated] using (spells_intercalate leads_semicolon rfl hall).scans

example :
    text [("a", ⟨[⟨"x", .int, false⟩, ⟨"\"", .text, true⟩], [[.int (-5), .text "it's"], [.int 70, .null]]⟩),
      ("b", ⟨[⟨"x", .boolean, true⟩], []⟩)] =
      "CREATE TABLE \"a\" (\"x\" int NOT NULL, \"\"\"\" text);\n" ++
      "INSERT INTO \"a\" VALUES (-5, 'it''s'), (70, NULL);\n" ++ "CREATE TABLE \"b\" (\"x\" boolean)" := by
  decide +kernel

end Dump

end SqlShell
