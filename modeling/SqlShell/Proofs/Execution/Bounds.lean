import Mathlib.Data.Nat.PSub
import SqlShell.Proofs.Execution.Failures
import SqlShell.Proofs.Execution.InPlace
import SqlShell.Proofs.Token.Cursor
/-!
# Positions

Wherever a statement looks something up by its position, the position is one of the list it is looked up in
(`no_position_out_of_bounds`). For what is done with tables, this means that `StatementError.outOfBounds` is never
reported: a row that is checked is as long as the columns, a name is bound to a position of theirs, and an UPDATE writes
to the positions that it has read from. Numbers are cut into pieces at positions of their text, and tokens end where the
text has characters.
-/

namespace SqlShell

open Text

/-! ### Pieces of numbers -/

namespace Numeral

/-- The exponent that is written behind the letter, if it has 64 bits. -/
def writtenExponent? (written : List Char) : Option Int :=
  let magnitude := digitsValue (afterSign written)
  let value : Int := if sign written = ['-'] then -magnitude else magnitude
  if afterSign written ≠ [] ∧ (afterSign written).all Char.isDigit ∧ -intBound ≤ value ∧ value < intBound then some value
  else none

/-- The mantissa and the exponent of a number, which is cut at its first exponent letter. -/
def parts? (text : List Char) : Option (List Char × Option Int) :=
  match text.findIdx? isMarker with
  | none => some (text, some 0)
  | some index => do
    let mantissa ← slice? 0 index text
    let written ← slice? (index + 1) text.length text
    return (mantissa, writtenExponent? written)

/-- The int that is `digits` times ten to the power `scale`, where the last digits are cut off for a negative power. -/
def scaledBySlices? (negative : Bool) (digits : List Char) (scale : Int) : Option (Except NumeralError Int64) :=
  if scale < 0 then
    if digits.length ≤ scale.natAbs then some (.error .notWhole)
    else do
      let kept ← Nat.psub digits.length scale.natAbs
      let dropped ← slice? kept digits.length digits
      if dropped.any (· != '0') then return .error .notWhole
      else return signed negative (digitsValue (← slice? 0 kept digits))
  else some (scaled negative digits scale)

/-- The int that a written number stands for, or its negation, with all pieces of the text taken by position. -/
def toInt64BySlices? (text : List Char) (negative : Bool) : Option (Except NumeralError Int64) := do
  let (mantissa, exponent) ← parts? text
  let whole := wholeText mantissa
  let fraction := fractionText mantissa
  match exponent with
  | none => return .error .malformed
  | some exponent =>
    if !(whole ++ fraction).all Char.isDigit then return .error .malformed
    else
      let digits := (whole ++ fraction).dropWhile (· == '0')
      let scale := exponent - fraction.length
      if digits = [] then return .ok 0
      else if scale < -intBound then return .error .outOfRange
      else scaledBySlices? negative digits scale

/-- The letter at which a number is cut is the first one. -/
theorem findIdx?_isMarker (text : List Char) :
    text.findIdx? isMarker = if text.dropWhile (!isMarker ·) = [] then none else some (mantissaText text).length := by
  have hbefore : (mantissaText text).findIdx? isMarker = none :=
    List.findIdx?_eq_none_iff.2 fun c hc => by simpa using of_mem_takeWhile hc
  have hbehind : (text.dropWhile (!isMarker ·)).findIdx? isMarker =
      if text.dropWhile (!isMarker ·) = [] then none else some 0 := by
    have hstops := stops_dropWhile (!isMarker ·) text
    cases hrest : text.dropWhile (!isMarker ·) with
    | nil => rfl
    | cons letter written =>
      rw [hrest, stops_cons] at hstops
      simp [List.findIdx?_cons, (by simpa using hstops : isMarker letter = true)]
  have htext : text = mantissaText text ++ text.dropWhile (!isMarker ·) := List.takeWhile_append_dropWhile.symm
  conv => lhs; rw [htext]
  rw [List.findIdx?_append, hbefore, hbehind]
  split <;> simp

theorem parts?_eq (text : List Char) : parts? text = some (mantissaText text, exponentValue? text) := by
  have htext : mantissaText text ++ text.dropWhile (!isMarker ·) = text := List.takeWhile_append_dropWhile
  rw [parts?, findIdx?_isMarker, exponentValue?]
  generalize mantissaText text = mantissa at htext ⊢
  cases hrest : text.dropWhile (!isMarker ·) with
  | nil =>
    rw [hrest, List.append_nil] at htext
    rw [htext]
    rfl
  | cons letter written =>
    rw [hrest] at htext
    have hbefore : mantissa.length ≤ text.length := by simp [← htext]
    have hbehind : mantissa.length + 1 ≤ text.length := by simp [← htext]
    have hmantissa : text.take mantissa.length = mantissa := by rw [← htext, List.take_left]
    have hwritten : text.drop (mantissa.length + 1) = written := by simp [← htext]
    rw [if_neg (List.cons_ne_nil letter written)]
    dsimp only
    rw [slice?_zero hbefore, hmantissa, slice?_length hbehind, hwritten]
    rfl

theorem scaledBySlices?_eq (negative : Bool) (digits : List Char) (scale : Int) :
    scaledBySlices? negative digits scale = some (scaled negative digits scale) := by
  by_cases hscale : scale < 0
  · rw [scaledBySlices?, scaled, if_pos hscale, if_pos hscale]
    by_cases hshort : digits.length ≤ scale.natAbs
    · rw [if_pos hshort, if_pos (.inl hshort)]
    · have hkept : digits.length - scale.natAbs ≤ digits.length := Nat.sub_le _ _
      rw [if_neg hshort, Nat.psub_eq_sub (Nat.le_of_not_le hshort), Option.bind_eq_bind, Option.bind_some,
        slice?_length hkept, Option.bind_eq_bind, Option.bind_some, slice?_zero hkept]
      by_cases hdropped : (digits.drop (digits.length - scale.natAbs)).any (· != '0') = true
      · rw [if_pos hdropped, if_pos (.inr hdropped)]
        rfl
      · rw [if_neg hdropped, if_neg (not_or.2 ⟨hshort, hdropped⟩)]
        rfl
  · rw [scaledBySlices?, if_neg hscale]

theorem toInt64BySlices?_eq (text : List Char) (negative : Bool) :
    toInt64BySlices? text negative = some (toInt64 text negative) := by
  rw [toInt64BySlices?, toInt64, parts?_eq, Option.bind_eq_bind, Option.bind_some]
  cases exponentValue? text with
  | none => rfl
  | some exponent =>
    simp only [scaledBySlices?_eq, apply_ite some]
    rfl

end Numeral

/-! ### Columns -/

/-- The result columns of a star, with the types of the columns looked up by position. -/
def Table.starByPosition? (table : Table) : Option (List Projection) :=
  (table.columns.map (·.name)).zipIdx.mapM fun (name, index) => do
    let type ← (table.columns.map (·.type))[index]?
    return (⟨name, type⟩, BoundExpression.ofColumn index type name)

theorem mapM_eq_some_map {α β : Type} {f : α → Option β} {g : α → β} {as : List α} (h : ∀ a ∈ as, f a = some (g a)) :
    as.mapM f = some (as.map g) := by
  induction as with
  | nil => rfl
  | cons a as ih =>
    rw [List.mapM_cons, h a List.mem_cons_self, ih fun b hb => h b (List.mem_cons_of_mem _ hb)]
    rfl

theorem Table.starByPosition?_eq (table : Table) : table.starByPosition? = some table.starProjections := by
  rw [starByPosition?, List.zipIdx_map, List.mapM_map]
  refine mapM_eq_some_map fun pair hpair => ?_
  have hcolumn : table.columns[pair.2]? = some pair.1 := List.mk_mem_zipIdx_iff_getElem?.1 hpair
  show ((table.columns.map (·.type))[pair.2]? >>= fun type => _) = _
  rw [List.getElem?_map, hcolumn]
  rfl

/-! ### Statements -/

open StatementError

theorem inBounds_addColumns (columns : List Column) (definitions : List ColumnDefinition) :
    FailsOnly IsInBounds (addColumns columns definitions) := by
  induction definitions generalizing columns with
  | nil => exact .ok columns
  | cons definition definitions ih =>
    rw [addColumns]
    split
    · exact .error trivial
    · dsimp only
      split
      · exact .error trivial
      · exact ih _

theorem Table.inBounds_newRow (table : Table) (values : List Expression) :
    FailsOnly IsInBounds (table.newRow values) := by
  rw [newRow]
  by_cases hless : values.length < table.columns.length
  · rw [if_pos hless]
    exact .error trivial
  · by_cases hmore : values.length > table.columns.length
    · rw [if_neg hless, if_pos hmore]
      exact .error trivial
    · rw [if_neg hless, if_neg hmore]
      have hrow : FailsOnly IsInBounds (values.mapM Expression.literal) :=
        .mapM fun value _ => (BoundExpression.inBounds_ofExpression none value).bind fun bound _ =>
          bound.inBounds_evaluate []
      refine hrow.bind fun row hcells => ?_
      have hlength : row.length ≤ table.columns.length := by
        rw [← (mapM_eq_ok.1 hcells).length_eq]
        omega
      exact (inBounds_acceptRow hlength).map

namespace Catalog

variable {catalog : Catalog}

theorem inBounds_find (catalog : Catalog) (name : String) : FailsOnly IsInBounds (catalog.find name) := by
  rw [find]
  split
  · exact .error trivial
  · exact .ok _

theorem inBounds_select (hcatalog : catalog.WellFormed) (s : Select) : FailsOnly IsInBounds (catalog.select s) := by
  refine (inBounds_find catalog _).bind fun table htable => ?_
  have hfit := (hcatalog.table (find_eq_ok.1 htable)).rows_fit
  refine (table.inBounds_projections 0 s.items).bind fun projections hprojections => ?_
  refine (BoundExpression.inBounds_ofCondition table s.condition).bind fun condition hcondition => ?_
  refine FailsOnly.bind (.mapM fun key _ => (BoundExpression.inBounds_ofExpression _ key.expression).map) fun keys hkeys => ?_
  exact (failsOnly_result hfit (fun row hrow => BoundExpression.failsOnly_admits hcondition (hfit row hrow))
    (sound_of_bindKeys hkeys) (Table.sound_of_projections hprojections)).mono fun _ => IsOverflow.isInBounds

theorem inBounds_execute (hcatalog : catalog.WellFormed) (s : Statement) :
    FailsOnly IsInBounds (catalog.execute s) := by
  cases s with
  | create s =>
    show FailsOnly _ (catalog.createTable s)
    rw [createTable]
    split
    · exact .error trivial
    · exact (inBounds_addColumns [] s.columns).map
  | drop s =>
    show FailsOnly _ (catalog.dropTable s)
    rw [dropTable]
    split
    · exact .ok _
    · exact .error trivial
  | insert s =>
    refine (inBounds_find catalog _).bind fun table _ => ?_
    exact (FailsOnly.mapM fun values _ => table.inBounds_newRow values).map
  | select s => exact (inBounds_select hcatalog s).map
  | delete s =>
    refine (inBounds_find catalog _).bind fun table htable => ?_
    have hfit := (hcatalog.table (find_eq_ok.1 htable)).rows_fit
    refine (BoundExpression.inBounds_ofCondition table s.condition).bind fun condition hcondition => ?_
    refine FailsOnly.map (.filterRows fun row hrow => ?_)
    exact ((BoundExpression.failsOnly_admits hcondition (hfit row hrow)).mono fun _ => IsOverflow.isInBounds).map
  | update s =>
    refine (inBounds_find catalog _).bind fun table htable => ?_
    have hfit := (hcatalog.table (find_eq_ok.1 htable)).rows_fit
    refine (table.inBounds_bindAssignments [] s.assignments).bind fun targets htargets => ?_
    refine (BoundExpression.inBounds_ofCondition table s.condition).bind fun condition hcondition => ?_
    refine FailsOnly.map (.mapM fun row hrow => ?_)
    have hupdated := Table.failsOnly_updatedRow? hcondition (Table.fits_of_bindAssignments htargets) (hfit row hrow)
    exact hupdated.mono fun _ h => h.elim IsOverflow.isInBounds IsNullConstraint.isInBounds

theorem inBounds_run (hcatalog : catalog.WellFormed) {statements : List Statement}
    (hstatements : ∀ s ∈ statements, s.DefinesColumns) : .error .outOfBounds ∉ (catalog.run statements).1 := by
  induction statements generalizing catalog with
  | nil => exact List.not_mem_nil
  | cons s statements ih =>
    have hfirst : (catalog.step s).1 ≠ .error .outOfBounds := fun h =>
      inBounds_execute hcatalog s _ (step_eq_error_iff.1 h)
    have hnext := hcatalog.step (hstatements s List.mem_cons_self)
    have hrest := ih hnext fun other hother => hstatements other (List.mem_cons_of_mem _ hother)
    rw [run_cons, List.mem_cons]
    exact not_or.2 ⟨hfirst.symm, hrest⟩

/-- Batches write into the tables by position, and never use a position that is not there. -/
theorem inBounds_executeBatchInPlace (hcatalog : catalog.WellFormed) (source : String) :
    ∀ outcomes after, catalog.executeBatchInPlace source = (.ok outcomes, after) → .error .outOfBounds ∉ outcomes := by
  intro outcomes after h
  rw [executeBatchInPlace_eq, executeBatch] at h
  cases hparse : parse source with
  | error e => simp [hparse] at h
  | ok statements =>
    rw [hparse] at h
    obtain rfl := Except.ok.inj (congrArg Prod.fst h)
    exact inBounds_run hcatalog (definesColumns_of_parse hparse)

end Catalog

/-- No position is used that is not there. Whatever texts have been executed from the empty catalog on, the statements of
a text look up columns, cells and rows only where there are some; a star finds the types of its columns by position; a
number is cut into pieces at positions of its text; and a token is read from a stretch of its text, wherever the reader
is put, even behind the end. -/
theorem no_position_out_of_bounds :
    (∀ sources source outcomes after,
      (Catalog.empty.afterBatches sources).executeBatchInPlace source = (.ok outcomes, after) →
        .error .outOfBounds ∉ outcomes) ∧
    (∀ table : Table, table.starByPosition? = some table.starProjections) ∧
    (∀ text negative, Numeral.toInt64BySlices? text negative = some (Numeral.toInt64 text negative)) ∧
    (∀ source (place : Place), place.readReserved? source = some (place.read? Lexeme.reserved? source)) ∧
    (∀ source (place : Place), place.readNumeral? source = some (place.read? Lexeme.numeral? source)) ∧
    ∀ reader ∈ [Lexeme.reserved?, Lexeme.string?, Lexeme.identifier?, Lexeme.numeral?],
      ∀ source (place : Place) token next, place.read? reader source = some (token, next) →
        place.offset < next.offset ∧ next.offset ≤ source.length := by
  refine ⟨fun sources source => Catalog.inBounds_executeBatchInPlace (.afterBatches .empty sources) source,
    Table.starByPosition?_eq, Numeral.toInt64BySlices?_eq, Place.readReserved?_eq, Place.readNumeral?_eq, ?_⟩
  intro reader hreader source place token next h
  simp only [List.mem_cons, List.not_mem_nil, or_false] at hreader
  rcases hreader with rfl | rfl | rfl | rfl
  · exact Place.read?_within Lexeme.reserved?_tiles h
  · exact Place.read?_within Lexeme.string?_tiles h
  · exact Place.read?_within Lexeme.identifier?_tiles h
  · exact Place.read?_within Lexeme.numeral?_tiles h

end SqlShell
