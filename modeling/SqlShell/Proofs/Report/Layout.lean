import Mathlib.Algebra.BigOperators.Group.Finset.Basic
import Mathlib.Algebra.GroupWithZero.Nat
import SqlShell.Report.Aligned
/-!
# The layout of aligned tables

`LaidOut` says of one printed line where its texts stand, without saying how the line is put together: every text
starts where the columns in front of it end, fills its column, and nothing but separators stands between them. All
lines of a table are laid out over the same widths, those of the longest texts of the columns
(`aligned?_lays_out`). A table is printed exactly if all of these widths can be counted.
-/

namespace SqlShell.Report

/-- The length of the longest of some texts. -/
def longest : List String → Nat
  | [] => 0
  | text :: texts => max text.length (longest texts)

/-- The texts of a column: its heading, and a text for each row that has a cell for it. -/
def columnTexts (result : ResultTable) (k : Nat) : List String :=
  (result.headings[k]?.map (·.name)).toList ++ result.rows.filterMap fun row => row[k]?.map Cell.display

/-- The length of the longest text of a column. -/
def columnWidth (result : ResultTable) (k : Nat) : Nat :=
  longest (columnTexts result k)

/-- Where a column starts: behind the columns in front of it, each with three characters that separate it from the next. -/
def columnStart (width : Nat → Nat) (k : Nat) : Nat :=
  ∑ i ∈ Finset.range k, width i + 3 * k

/-- A text stands in a line from one of its characters on. -/
def StandsAt (text : String) (start : Nat) (line : String) : Prop :=
  text.toList <+: line.toList.drop start

/-- A line shows texts in columns: each text is filled up with spaces to the width of its column, columns that follow each
other have a separator between them, and there is nothing else. -/
structure LaidOut (width : Nat → Nat) (separator : String) (texts : List String) (line : String) : Prop where
  text_at : ∀ k text, texts[k]? = some text → text.length ≤ width k ∧
    StandsAt (text ++ String.ofList (List.replicate (width k - text.length) ' ')) (columnStart width k) line
  separator_at : ∀ k, k + 1 < texts.length → StandsAt separator (columnStart width k + width k) line
  length_eq : line.length = ∑ i ∈ Finset.range texts.length, width i + 3 * (texts.length - 1)

/-- The lines of a table show its headings, dashes as wide as the columns, and the cells of each row that have a column. -/
structure Arranged (result : ResultTable) (header rule : String) (rows : List String) : Prop where
  header : LaidOut (columnWidth result) " | " (result.headings.map (·.name)) header
  rule : LaidOut (columnWidth result) "-+-"
    ((List.range result.headings.length).map fun k => String.ofList (List.replicate (columnWidth result k) '-')) rule
  rows : List.Forall₂
    (fun row => LaidOut (columnWidth result) " | " ((row.map Cell.display).take result.headings.length)) result.rows rows

/-! ### Widths -/

section Widths

variable {result : ResultTable} {texts : List String} {text : String} {k : Nat}

theorem length_le_longest (h : text ∈ texts) : text.length ≤ longest texts := by
  induction texts with
  | nil => simp at h
  | cons first texts ih =>
    rw [longest]
    rcases List.mem_cons.1 h with rfl | h
    · exact Nat.le_max_left _ _
    · exact (ih h).trans (Nat.le_max_right _ _)

theorem longest_append (texts more : List String) : longest (texts ++ more) = max (longest texts) (longest more) := by
  induction texts with
  | nil => simp [longest]
  | cons text texts ih => rw [List.cons_append, longest, longest, ih, Nat.max_assoc]

theorem widen_getElem? (widths : List Nat) (texts : List String) (k : Nat) :
    (widen widths texts)[k]? = widths[k]?.map (max · (longest texts[k]?.toList)) := by
  induction widths, texts using widen.induct generalizing k with
  | case1 width widths text texts ih =>
    cases k with
    | zero => simp [widen, longest]
    | succ k => simpa [widen] using ih k
  | case2 widths texts hends =>
    cases widths with
    | nil => simp [widen]
    | cons width widths =>
      cases texts with
      | nil => simp [widen, longest]
      | cons text texts => exact absurd rfl (hends width widths text texts rfl)

/-- What a pass over the rows makes of a width: it takes up the texts of its own column. -/
theorem foldl_widen_getElem? (rows : List (List String)) (widths : List Nat) (k : Nat) :
    (rows.foldl widen widths)[k]? = widths[k]?.map (max · (longest (rows.filterMap (·[k]?)))) := by
  induction rows generalizing widths with
  | nil => simp [longest]
  | cons row rows ih =>
    have hrow : longest ((row :: rows).filterMap (·[k]?)) = max (longest row[k]?.toList) (longest (rows.filterMap (·[k]?))) := by
      rw [← longest_append]
      cases hk : row[k]? <;> simp [hk]
    rw [List.foldl_cons, ih, widen_getElem?, Option.map_map, hrow]
    congr 1
    funext width
    exact Nat.max_assoc _ _ _

theorem widths_eq (result : ResultTable) :
    widths result = (List.range result.headings.length).map (columnWidth result) := by
  apply List.ext_getElem?
  intro k
  rw [widths, foldl_widen_getElem?, List.getElem?_map, Option.map_map, List.getElem?_map]
  cases hk : result.headings[k]? with
  | none => simp [List.getElem?_eq_none_iff.1 hk]
  | some heading =>
    have hcells : (result.rows.map (·.map Cell.display)).filterMap (·[k]?) =
        result.rows.filterMap fun row => row[k]?.map Cell.display := by
      rw [List.filterMap_map]
      exact List.filterMap_congr fun row _ => List.getElem?_map
    have hlt : k < result.headings.length := (List.getElem?_eq_some_iff.1 hk).1
    simp [columnWidth, columnTexts, hk, hcells, longest, List.getElem?_range hlt]

theorem name_le_columnWidth {heading : Heading} (h : result.headings[k]? = some heading) :
    heading.name.length ≤ columnWidth result k :=
  length_le_longest (by simp [columnTexts, h])

theorem display_le_columnWidth {row : Row} {cell : Cell} (hrow : row ∈ result.rows) (h : row[k]? = some cell) :
    cell.display.length ≤ columnWidth result k :=
  length_le_longest (List.mem_append_right _ (List.mem_filterMap.2 ⟨row, hrow, by rw [h, Option.map_some]⟩))

end Widths

/-! ### Lines -/

section Lines

variable {width : Nat → Nat} {separator : String} {blocks texts : List String} {k : Nat}

theorem length_intercalate (separator : String) (blocks : List String) :
    (separator.intercalate blocks).length = (blocks.map String.length).sum + separator.length * (blocks.length - 1) := by
  induction blocks with
  | nil => simp
  | cons block blocks ih =>
    cases blocks with
    | nil => simp
    | cons next blocks =>
      simp only [String.intercalate_cons_cons, String.length_append, ih, List.map_cons, List.sum_cons, List.length_cons,
        Nat.add_sub_cancel, Nat.mul_add, Nat.mul_one]
      omega

theorem standsAt_append (front text back : String) : StandsAt text front.length (front ++ text ++ back) := by
  rw [StandsAt, String.toList_append, String.toList_append, List.append_assoc, ← String.length_toList, List.drop_left]
  exact List.prefix_append _ _

/-- Between its blocks a line can be cut into what stands in front of a separator and what stands behind it. -/
theorem intercalate_split (hk : 0 < k) (hlt : k < blocks.length) : separator.intercalate blocks =
    separator.intercalate (blocks.take k) ++ separator ++ separator.intercalate (blocks.drop k) := by
  conv => lhs; rw [← List.take_append_drop k blocks]
  exact String.intercalate_append_of_ne_nil (List.ne_nil_of_length_pos (by rw [List.length_take]; omega))
    (List.ne_nil_of_length_pos (by rw [List.length_drop]; omega))

theorem exists_intercalate_drop {block : String} (hk : blocks[k]? = some block) :
    ∃ back, separator.intercalate (blocks.drop k) = block ++ back := by
  obtain ⟨hlt, rfl⟩ := List.getElem?_eq_some_iff.1 hk
  rw [List.drop_eq_getElem_cons hlt]
  cases blocks.drop (k + 1) with
  | nil => exact ⟨"", by simp⟩
  | cons next blocks => exact ⟨separator ++ separator.intercalate (next :: blocks), by simp [String.append_assoc]⟩

theorem sum_take (hw : ∀ k block, blocks[k]? = some block → block.length = width k) (hk : k ≤ blocks.length) :
    ((blocks.take k).map String.length).sum = ∑ i ∈ Finset.range k, width i := by
  induction k with
  | zero => simp
  | succ k ih =>
    have hblock : blocks[k]? = some blocks[k] := List.getElem?_eq_getElem hk
    rw [List.take_add_one, hblock, List.map_append, List.sum_append, ih (Nat.le_of_succ_le hk), Finset.sum_range_succ,
      ← hw k _ hblock]
    simp

theorem length_pad {text : String} {width : Nat} (h : text.length ≤ width) : (pad text width).length = width := by
  rw [pad, String.length_append, String.length_ofList, List.length_replicate, Nat.add_sub_cancel' h]

/-- Texts that are filled up to the widths of their columns and joined are laid out over these columns. -/
theorem laidOut_intercalate (hs : separator.length = 3) (hlength : blocks.length = texts.length)
    (hblocks : ∀ k text, texts[k]? = some text → text.length ≤ width k ∧ blocks[k]? = some (pad text (width k))) :
    LaidOut width separator texts (separator.intercalate blocks) := by
  have hw : ∀ k block, blocks[k]? = some block → block.length = width k := by
    intro k block hk
    have hlt : k < texts.length := hlength ▸ (List.getElem?_eq_some_iff.1 hk).1
    obtain ⟨hle, hpad⟩ := hblocks k _ (List.getElem?_eq_getElem hlt)
    rw [Option.some.inj (hk.symm.trans hpad), length_pad hle]
  -- Where a line is cut behind some of its blocks, the widths of their columns stand in front of the cut.
  have hfront : ∀ k ≤ blocks.length, (separator.intercalate (blocks.take k)).length =
      ∑ i ∈ Finset.range k, width i + 3 * (k - 1) := by
    intro k hk
    rw [length_intercalate, sum_take hw hk, hs, List.length_take, Nat.min_eq_left hk]
  constructor
  case text_at =>
    intro k text htext
    obtain ⟨hle, hblock⟩ := hblocks k text htext
    refine ⟨hle, ?_⟩
    obtain ⟨back, hback⟩ := exists_intercalate_drop hblock
    cases k with
    | zero =>
      rw [List.drop_zero] at hback
      rw [hback]
      exact standsAt_append "" _ back
    | succ k =>
      have hlt : k + 1 < blocks.length := (List.getElem?_eq_some_iff.1 hblock).1
      have hstart : columnStart width (k + 1) = (separator.intercalate (blocks.take (k + 1)) ++ separator).length := by
        rw [columnStart, String.length_append, hfront (k + 1) hlt.le, hs]
        omega
      rw [intercalate_split k.succ_pos hlt, hback, hstart, ← String.append_assoc]
      exact standsAt_append _ _ back
  case separator_at =>
    intro k hk
    have hlt : k + 1 < blocks.length := hlength ▸ hk
    have hstart : columnStart width k + width k = (separator.intercalate (blocks.take (k + 1))).length := by
      rw [columnStart, hfront (k + 1) hlt.le, Finset.sum_range_succ]
      omega
    rw [intercalate_split k.succ_pos hlt, hstart]
    exact standsAt_append _ _ _
  case length_eq => rw [← hlength, ← hfront blocks.length le_rfl, List.take_length]

end Lines

/-! ### Tables -/

section Tables

variable {result : ResultTable}

/-- A line of texts that fit into their columns. What has no column is not shown. -/
theorem laidOut_line {texts : List String}
    (hfit : ∀ k text, texts[k]? = some text → text.length ≤ columnWidth result k) :
    LaidOut (columnWidth result) " | " (texts.take result.headings.length) (line (widths result) texts) := by
  refine laidOut_intercalate rfl ?_ fun k text hk => ?_
  · rw [List.length_zipWith, widths_eq, List.length_map, List.length_range, List.length_take, Nat.min_comm]
  · obtain ⟨hlt, htext⟩ : k < result.headings.length ∧ texts[k]? = some text := by simpa [List.getElem?_take] using hk
    refine ⟨hfit k text htext, ?_⟩
    rw [List.getElem?_zipWith, htext, widths_eq, List.getElem?_map, List.getElem?_range hlt]
    rfl

theorem laidOut_rule (result : ResultTable) : LaidOut (columnWidth result) "-+-"
    ((List.range result.headings.length).map fun k => String.ofList (List.replicate (columnWidth result k) '-'))
    (rule (widths result)) := by
  rw [rule, widths_eq, List.map_map]
  refine laidOut_intercalate rfl (by simp) fun k text hk => ?_
  obtain ⟨i, hi, rfl⟩ := Option.map_eq_some_iff.1 (List.getElem?_map ▸ hk)
  obtain ⟨hlt, rfl⟩ := List.getElem?_eq_some_iff.1 hi
  rw [List.length_range] at hlt
  simp [pad, hlt]

theorem arranged (result : ResultTable) : Arranged result (line (widths result) (result.headings.map (·.name)))
    (rule (widths result)) (result.rows.map fun row => line (widths result) (row.map Cell.display)) where
  header := by
    have hline : LaidOut (columnWidth result) " | " ((result.headings.map (·.name)).take result.headings.length)
        (line (widths result) (result.headings.map (·.name))) := by
      apply laidOut_line
      intro k text hk
      obtain ⟨heading, hheading, rfl⟩ := Option.map_eq_some_iff.1 (List.getElem?_map ▸ hk)
      exact name_le_columnWidth hheading
    rwa [← List.length_map (·.name), List.take_length] at hline
  rule := laidOut_rule result
  rows := by
    rw [List.forall₂_map_right_iff, List.forall₂_same]
    intro row hrow
    apply laidOut_line
    intro k text hk
    obtain ⟨cell, hcell, rfl⟩ := Option.map_eq_some_iff.1 (List.getElem?_map ▸ hk)
    exact display_le_columnWidth hrow hcell

/-- Where no row is short of cells, all lines of a table have the same length. -/
theorem Arranged.length_eq {header rule : String} {rows : List String} (h : Arranged result header rule rows)
    (hfull : ∀ row ∈ result.rows, result.headings.length ≤ row.length) : ∀ line ∈ header :: rule :: rows,
      line.length = ∑ k ∈ Finset.range result.headings.length, columnWidth result k + 3 * (result.headings.length - 1) := by
  intro line hline
  rcases List.mem_cons.1 hline with rfl | hline
  · simpa using h.header.length_eq
  rcases List.mem_cons.1 hline with rfl | hline
  · simpa using h.rule.length_eq
  · obtain ⟨i, hi, rfl⟩ := List.mem_iff_getElem.1 hline
    have hrow : i < result.rows.length := h.rows.length_eq ▸ hi
    have hlength := (h.rows.get hrow hi).length_eq
    rwa [List.length_take, List.length_map, Nat.min_eq_left (hfull _ (List.get_mem _ _))] at hlength

theorem widths_fit_iff :
    (widths result).all (· ≤ maxWidth) = true ↔ ∀ k < result.headings.length, columnWidth result k ≤ maxWidth := by
  simp [widths_eq]

theorem aligned?_eq_none (h : ∃ k < result.headings.length, maxWidth < columnWidth result k) : aligned? result = none := by
  obtain ⟨k, hk, hwide⟩ := h
  exact if_neg fun hfit => absurd (widths_fit_iff.1 hfit k hk) (Nat.not_le.2 hwide)

theorem aligned?_eq_none_of_long_name {heading : Heading} (h : heading ∈ result.headings)
    (hlong : maxWidth < heading.name.length) : aligned? result = none := by
  obtain ⟨k, hk⟩ := List.mem_iff_getElem?.1 h
  exact aligned?_eq_none ⟨k, (List.getElem?_eq_some_iff.1 hk).1, hlong.trans_le (name_le_columnWidth hk)⟩

/-- A table whose widths can be counted is printed with all of its lines, and they are laid out alike. A table with a
column that is too wide is not printed. -/
theorem aligned?_lays_out (result : ResultTable) :
    ((∀ k < result.headings.length, columnWidth result k ≤ maxWidth) → ∃ header rule rows,
      aligned? result = some (String.join ((header :: rule :: rows).map (· ++ "\n"))) ∧
      Arranged result header rule rows ∧
      ((∀ row ∈ result.rows, result.headings.length ≤ row.length) → ∀ line ∈ header :: rule :: rows,
        line.length =
          ∑ k ∈ Finset.range result.headings.length, columnWidth result k + 3 * (result.headings.length - 1))) ∧
    ((∃ k < result.headings.length, maxWidth < columnWidth result k) → aligned? result = none) := by
  refine ⟨fun hfit => ?_, aligned?_eq_none⟩
  have hprinted : aligned? result = some (aligned result) := if_pos (widths_fit_iff.2 hfit)
  exact ⟨_, _, _, hprinted, arranged result, (arranged result).length_eq⟩

/-- Two people, one of them without a name. -/
theorem aligned?_lays_out_of_people :
    let people : ResultTable := ⟨[⟨"id", .int⟩, ⟨"name", .text⟩],
      [[.int 1, .text "alice"], [.int 20, .null]]⟩
    ∃ header rule rows, aligned? people = some (String.join ((header :: rule :: rows).map (· ++ "\n"))) ∧
      Arranged people header rule rows ∧ ∀ line ∈ header :: rule :: rows, line.length = 10 := by
  intro people
  obtain ⟨header, rule, rows, hprinted, harranged, hlength⟩ := (aligned?_lays_out people).1 (by decide)
  exact ⟨header, rule, rows, hprinted, harranged, hlength (by decide)⟩

/-- A heading that is one character too long. -/
theorem long_heading_not_printed :
    aligned? ⟨[⟨String.ofList (List.replicate 65536 'a'), .text⟩], []⟩ = none := by
  refine aligned?_eq_none_of_long_name (List.mem_singleton.2 rfl) ?_
  rw [String.length_ofList, List.length_replicate]
  decide

end Tables

end SqlShell.Report
