import SqlShell.Proofs.Token.Spelling
import SqlShell.Token.Lexing
/-!
# Reading at positions of a text

The readers of lexemes take characters from the front of a list. Here they work on a whole text and a place in it, and
wherever they look at a stretch of the text they look it up by its positions. That gives nothing if the text does not
have these positions (`slice?`), but none of the four readers ever asks for such a stretch, whatever the text and the
place are, even behind the end of the text: each gives what `Place.read?` gives.
-/

namespace SqlShell

open Text

/-- The stretch from one position up to another, if the text has these positions. -/
def slice? {α : Type} (start stop : Nat) (text : List α) : Option (List α) :=
  if start ≤ stop ∧ stop ≤ text.length then some ((text.take stop).drop start) else none

theorem slice?_append {α : Type} (front middle behind : List α) :
    slice? front.length (front.length + middle.length) (front ++ middle ++ behind) = some middle := by
  have hin : front.length ≤ front.length + middle.length ∧
      front.length + middle.length ≤ (front ++ middle ++ behind).length := by
    simp only [List.length_append]
    omega
  rw [slice?, if_pos hin, ← List.length_append, List.take_left, List.drop_left]

theorem slice?_zero {α : Type} {stop : Nat} {text : List α} (h : stop ≤ text.length) :
    slice? 0 stop text = some (text.take stop) := by
  rw [slice?, if_pos ⟨Nat.zero_le stop, h⟩, List.drop_zero]

theorem slice?_length {α : Type} {start : Nat} {text : List α} (h : start ≤ text.length) :
    slice? start text.length text = some (text.drop start) := by
  rw [slice?, if_pos ⟨h, Nat.le_refl _⟩, List.take_length]

/-- What stands behind a position is the stretch from there on. -/
theorem slice?_of_drop {α : Type} {text spelling rest : List α} {position : Nat}
    (h : spelling ++ rest = text.drop position) (hne : spelling ≠ []) :
    slice? position (position + spelling.length) text = some spelling := by
  have hposition : position ≤ text.length := by
    refine Nat.le_of_not_lt fun hlt => hne ?_
    rw [List.drop_of_length_le (Nat.le_of_lt hlt)] at h
    exact (List.append_eq_nil_iff.1 h).1
  have hfound := slice?_append (text.take position) spelling rest
  rw [List.append_assoc, h, List.take_append_drop, List.length_take_of_le hposition] at hfound
  exact hfound

/-! ### Words and signs -/

theorem isNameChar_of_isLower_toLower {c : Char} (h : c.toLower.isLower = true) : isNameChar c = true := by
  have hletter : c.isAlpha = true ∧ c.toNat < 128 := by
    by_cases hupper : c.val ≥ 'A'.val ∧ c.val ≤ 'Z'.val
    · have hcode : c.toNat ≤ 90 := UInt32.le_iff_toNat_le.1 hupper.2
      have hisUpper : c.isUpper = true := decide_eq_true hupper
      exact ⟨Bool.or_eq_true_iff.2 (.inl hisUpper), by omega⟩
    · have hsame : c.toLower = c := dif_neg hupper
      rw [hsame] at h
      have hcode : c.toNat ≤ 122 := UInt32.le_iff_toNat_le.1 (of_decide_eq_true (Bool.and_eq_true_iff.1 h).2)
      exact ⟨Bool.or_eq_true_iff.2 (.inr h), by omega⟩
  rw [isNameChar, isLetter_of_ascii hletter.2, hletter.1]
  rfl

namespace Token.Kind

/-- The words and signs that have one spelling each. -/
def fixed : List Token.Kind :=
  Keyword.all.map .keyword ++ [.boolean true, .boolean false] ++ Symbol.all.map .symbol

/-- Everything but a sign is spelled with letters. -/
def isWord : Token.Kind → Bool
  | .symbol _ => false
  | _ => true

/-- Whether a text starts with the kind, by its first characters. A word must end where its spelling ends. -/
def starts? (kind : Token.Kind) (text : List Char) : Option Bool :=
  let spelling := kind.text.toList
  if text.length < spelling.length then some false
  else do
    let head ← slice? 0 spelling.length text
    if kind.isWord then
      return head.map Char.toLower == spelling && !text[spelling.length]?.any isNameChar
    else return head == spelling

/-- The longest of the kinds that a text starts with. -/
def longest? (text : List Char) : List Token.Kind → Option (Option Token.Kind)
  | [] => some none
  | kind :: kinds => do
    let found ← longest? text kinds
    if ← kind.starts? text then
      match found with
      | none => return some kind
      | some other => return some (if other.text.length < kind.text.length then kind else other)
    else return found

/-- A text starts with a word if its first run of name characters spells it, and with a sign if it spells that. -/
def Starts (kind : Token.Kind) (text : List Char) : Prop :=
  if kind.isWord then (nameRun text).map Char.toLower = kind.text.toList else kind.text.toList <+: text

theorem forall_isLower_of_isWord {kind : Token.Kind} (hkind : kind ∈ fixed) (hword : kind.isWord = true) :
    ∀ c ∈ kind.text.toList, c.isLower = true := by
  have hall : ∀ kind ∈ fixed, kind.isWord = true → kind.text.toList.all Char.isLower = true := by decide
  exact List.all_eq_true.1 (hall kind hkind hword)

theorem starts_of_isWord {kind : Token.Kind} (hword : kind.isWord = true) {text : List Char} :
    kind.Starts text ↔ (nameRun text).map Char.toLower = kind.text.toList := by
  rw [Starts, if_pos hword]

/-- The first characters spell a word that ends there if they are the first run of name characters. -/
theorem starts_word_iff {spelling text : List Char} (hspelling : ∀ c ∈ spelling, c.isLower = true) :
    ((text.take spelling.length).map Char.toLower = spelling ∧ text[spelling.length]?.any isNameChar = false) ↔
      (nameRun text).map Char.toLower = spelling := by
  constructor
  · rintro ⟨hhead, hnext⟩
    have hrun : ∀ c ∈ text.take spelling.length, isNameChar c = true := fun c hc =>
      isNameChar_of_isLower_toLower (hspelling _ (hhead ▸ List.mem_map_of_mem hc))
    have hstops : Stops isNameChar (text.drop spelling.length) := by
      intro c hc
      rw [List.head?_drop] at hc
      rwa [Option.mem_def.1 hc, Option.any_some] at hnext
    have hnameRun := takeWhile_append hrun hstops
    rw [List.take_append_drop] at hnameRun
    rw [nameRun, hnameRun, hhead]
  · intro hrun
    have hlength : (nameRun text).length = spelling.length := by rw [← hrun, List.length_map]
    have htext := nameRun_append_afterNameRun text
    have htake : text.take spelling.length = nameRun text := by
      conv => lhs; rw [← htext, ← hlength]
      exact List.take_left
    have hnext : text[spelling.length]? = (afterNameRun text).head? := by
      conv => lhs; rw [← htext, ← hlength]
      rw [List.getElem?_append_right (Nat.le_refl _), Nat.sub_self, List.head?_eq_getElem?]
    refine ⟨by rw [htake, hrun], ?_⟩
    rw [hnext]
    cases hhead : (afterNameRun text).head? with
    | none => rfl
    | some c => exact stops_dropWhile isNameChar text c hhead

theorem starts?_eq {kind : Token.Kind} (hkind : kind ∈ fixed) (text : List Char) :
    ∃ flag, kind.starts? text = some flag ∧ (flag = true ↔ kind.Starts text) := by
  rw [starts?, Starts]
  by_cases hshort : text.length < kind.text.toList.length
  · refine ⟨false, if_pos hshort, ?_⟩
    simp only [Bool.false_eq_true, false_iff]
    split
    · intro hrun
      have hlength := congrArg List.length hrun
      have hle := (List.takeWhile_prefix isNameChar (l := text)).length_le
      rw [List.length_map, nameRun] at hlength
      omega
    · intro hprefix
      have := hprefix.length_le
      omega
  · rw [if_neg hshort, slice?_zero (Nat.le_of_not_lt hshort)]
    cases hword : kind.isWord with
    | true =>
      refine ⟨_, rfl, ?_⟩
      rw [if_pos rfl, ← starts_word_iff (forall_isLower_of_isWord hkind hword)]
      simp
    | false =>
      refine ⟨_, rfl, ?_⟩
      rw [if_neg (by simp), List.prefix_iff_eq_take, beq_iff_eq, eq_comm]

/-- What is found is a kind that the text starts with and that is as long as all others, if there is one. -/
structure IsLongest (text : List Char) (kinds : List Token.Kind) (found : Option Token.Kind) : Prop where
  starts : ∀ kind ∈ found, kind ∈ kinds ∧ kind.Starts text
  longest : ∀ kind ∈ kinds, kind.Starts text → ∃ longest ∈ found, kind.text.length ≤ longest.text.length

namespace IsLongest

variable {text : List Char} {kinds : List Token.Kind} {kind best : Token.Kind} {found : Option Token.Kind}

theorem nil : IsLongest text [] none :=
  ⟨by simp, by simp⟩

theorem skip (hnot : ¬kind.Starts text) (h : IsLongest text kinds found) : IsLongest text (kind :: kinds) found where
  starts other hother := (h.starts other hother).imp (List.mem_cons_of_mem _) id
  longest := List.forall_mem_cons.2 ⟨fun hstarts => absurd hstarts hnot, h.longest⟩

/-- A kind takes the place of one that is not longer. -/
theorem take (hstarts : kind.Starts text) (hle : ∀ best ∈ found, best.text.length ≤ kind.text.length)
    (h : IsLongest text kinds found) : IsLongest text (kind :: kinds) (some kind) where
  starts := by
    rintro _ ⟨⟩
    exact ⟨List.mem_cons_self, hstarts⟩
  longest := by
    refine List.forall_mem_cons.2 ⟨fun _ => ⟨kind, rfl, Nat.le_refl _⟩, fun other hother hother' => ⟨kind, rfl, ?_⟩⟩
    obtain ⟨best, hbest, hlength⟩ := h.longest other hother hother'
    exact Nat.le_trans hlength (hle best hbest)

theorem keep (hle : kind.text.length ≤ best.text.length) (h : IsLongest text kinds (some best)) :
    IsLongest text (kind :: kinds) (some best) where
  starts other hother := (h.starts other hother).imp (List.mem_cons_of_mem _) id
  longest := List.forall_mem_cons.2 ⟨fun _ => ⟨best, rfl, hle⟩, h.longest⟩

end IsLongest

theorem longest?_eq {kinds : List Token.Kind} (hkinds : ∀ kind ∈ kinds, kind ∈ fixed) (text : List Char) :
    ∃ found, longest? text kinds = some found ∧ IsLongest text kinds found := by
  induction kinds with
  | nil => exact ⟨none, rfl, .nil⟩
  | cons kind kinds ih =>
    obtain ⟨found, hfound, hlongest⟩ := ih fun other hother => hkinds other (List.mem_cons_of_mem _ hother)
    obtain ⟨flag, hflag, hstarts⟩ := starts?_eq (hkinds kind List.mem_cons_self) text
    rw [longest?, hfound, Option.bind_eq_bind, Option.bind_some, hflag, Option.bind_eq_bind, Option.bind_some]
    cases flag with
    | false => exact ⟨found, rfl, hlongest.skip fun h => Bool.false_ne_true (hstarts.2 h)⟩
    | true =>
      cases found with
      | none => exact ⟨some kind, rfl, hlongest.take (hstarts.1 rfl) (by simp)⟩
      | some best =>
        by_cases hlt : best.text.length < kind.text.length
        · refine ⟨some kind, congrArg (some ∘ some) (if_pos hlt), hlongest.take (hstarts.1 rfl) ?_⟩
          rintro _ ⟨⟩
          exact Nat.le_of_lt hlt
        · exact ⟨some best, congrArg (some ∘ some) (if_neg hlt), hlongest.keep (Nat.le_of_not_lt hlt)⟩

/-- The longest of the kinds that a text starts with is the one that is longer than all others. -/
theorem longest?_eq_some {kinds : List Token.Kind} (hkinds : ∀ kind ∈ kinds, kind ∈ fixed) {kind : Token.Kind}
    {text : List Char} (hmem : kind ∈ kinds) (hstarts : kind.Starts text)
    (hlongest : ∀ other ∈ kinds, other.Starts text → other = kind ∨ other.text.length < kind.text.length) :
    longest? text kinds = some (some kind) := by
  obtain ⟨found, hfound, h⟩ := longest?_eq hkinds text
  obtain ⟨longest, rfl, hlength⟩ := h.longest kind hmem hstarts
  obtain ⟨hlongestMem, hlongestStarts⟩ := h.starts longest rfl
  rcases hlongest longest hlongestMem hlongestStarts with rfl | hlt
  · exact hfound
  · omega

theorem longest?_eq_none {kinds : List Token.Kind} (hkinds : ∀ kind ∈ kinds, kind ∈ fixed) {text : List Char}
    (hnone : ∀ kind ∈ kinds, ¬kind.Starts text) : longest? text kinds = some none := by
  obtain ⟨found, hfound, h⟩ := longest?_eq hkinds text
  cases found with
  | none => exact hfound
  | some kind =>
    obtain ⟨hmem, hstarts⟩ := h.starts kind rfl
    exact absurd hstarts (hnone kind hmem)

/-! ### Which word or sign is the longest -/

theorem keyword_mem_fixed (k : Keyword) : .keyword k ∈ fixed := by
  cases k <;> decide

theorem symbol_mem_fixed (s : Symbol) : .symbol s ∈ fixed := by
  cases s <;> decide

theorem ofWord?_eq_some_iff {run : List Char} {kind : Token.Kind} :
    ofWord? run = some kind ↔ kind ∈ fixed ∧ kind.isWord = true ∧ run.map Char.toLower = kind.text.toList := by
  constructor
  · intro h
    obtain ⟨hkind, htext⟩ := ofWord?_eq_some h
    have hrun : run.map Char.toLower = kind.text.toList := by rw [← htext, String.toList_ofList]
    rcases hkind with ⟨k, rfl⟩ | ⟨b, rfl⟩
    · exact ⟨keyword_mem_fixed k, rfl, hrun⟩
    · exact ⟨by cases b <;> decide, rfl, hrun⟩
  · rintro ⟨hkind, hword, hrun⟩
    have hall : ∀ kind ∈ fixed, kind.isWord = true →
        (if kind.text = truthSpelling true then some (.boolean true)
          else if kind.text = truthSpelling false then some (.boolean false)
          else (Keyword.all.find? (·.spelling = kind.text)).map .keyword) = some kind := by
      decide
    rw [ofWord?, hrun, String.ofList_toList]
    exact hall kind hkind hword

theorem eq_symbol_of_isWord_eq_false {kind : Token.Kind} (h : kind.isWord = false) : ∃ s, kind = .symbol s := by
  cases kind with
  | symbol s => exact ⟨s, rfl⟩
  | _ => simp [isWord] at h

theorem isNameChar_head_symbol (s : Symbol) : ∃ c tail, s.spelling.toList = c :: tail ∧ isNameChar c = false := by
  cases s <;> exact ⟨_, _, rfl, by decide⟩

theorem mem_symbols (s : Symbol) : s ∈ Symbol.all := by
  cases s <;> decide

/-- A sign that goes on from another one goes on with a character that makes the other one longer. -/
theorem grows_of_prefix {s other : Symbol} (h : s.spelling.toList <+: other.spelling.toList) :
    other = s ∨ ∃ c tail, other.spelling.toList = s.spelling.toList ++ c :: tail ∧ s.grows c = true := by
  have hall : ∀ s ∈ Symbol.all, ∀ other ∈ Symbol.all, s.spelling.toList <+: other.spelling.toList →
      other = s ∨ (other.spelling.toList.drop s.spelling.toList.length).head?.any s.grows = true := by
    decide
  refine (hall s (mem_symbols s) other (mem_symbols other) h).imp id fun hnext => ?_
  obtain ⟨behind, hbehind⟩ := h
  rw [← hbehind, List.drop_left] at hnext
  cases behind with
  | nil => simp at hnext
  | cons c tail => exact ⟨c, tail, hbehind.symm, by simpa using hnext⟩

/-- A sign that a character makes longer is the first character of a sign of two. -/
theorem exists_of_grows {s : Symbol} {c : Char} (h : s.grows c = true) :
    ∃ longer : Symbol, longer.spelling.toList = s.spelling.toList ++ [c] ∧ ∀ d, longer.grows d = false := by
  cases s with
  | less =>
    simp only [Symbol.grows, Bool.or_eq_true, beq_iff_eq] at h
    rcases h with rfl | rfl
    · exact ⟨.notEqual, rfl, fun _ => rfl⟩
    · exact ⟨.lessEqual, rfl, fun _ => rfl⟩
  | greater =>
    simp only [Symbol.grows, beq_iff_eq] at h
    subst h
    exact ⟨.greaterEqual, rfl, fun _ => rfl⟩
  | _ => simp [Symbol.grows] at h

theorem starts_symbol_iff {s : Symbol} {text : List Char} :
    Starts (.symbol s) text ↔ s.spelling.toList <+: text := by
  rfl

/-- The sign that is read is longer than all others that the text starts with. -/
theorem eq_or_length_lt_of_split? {s other : Symbol} {text rest : List Char} (h : Symbol.split? text = some (s, rest))
    (hother : other.spelling.toList <+: text) : other = s ∨ other.spelling.length < s.spelling.length := by
  obtain ⟨rfl, hrest⟩ := Symbol.split?_eq_some_iff.1 h
  by_cases hlt : other.spelling.length < s.spelling.length
  · exact .inr hlt
  · have hle : s.spelling.toList.length ≤ other.spelling.toList.length := by
      rw [String.length_toList, String.length_toList]
      exact Nat.le_of_not_lt hlt
    -- The other sign is not shorter, so it goes on from this one, with a character that ended this one.
    rcases grows_of_prefix (List.prefix_of_prefix_length_le (List.prefix_append _ _) hother hle) with rfl |
      ⟨c, tail, hlonger, hgrows⟩
    · exact .inl rfl
    · rw [hlonger, List.prefix_append_right_inj] at hother
      obtain ⟨behind, rfl⟩ := hother
      exact absurd hgrows (by simp [hrest c rfl])

/-- Where no sign is read the text starts with none. -/
theorem not_prefix_of_split? {s : Symbol} {text : List Char} (h : Symbol.split? text = none) :
    ¬s.spelling.toList <+: text := by
  rintro ⟨rest, rfl⟩
  have hread {other : Symbol} {behind : List Char} (htext : s.spelling.toList ++ rest = other.spelling.toList ++ behind)
      (hbehind : Stops other.grows behind) : False := by
    rw [Symbol.split?_eq_some_iff.2 ⟨htext, hbehind⟩] at h
    exact Option.some_ne_none _ h
  cases rest with
  | nil => exact hread rfl stops_nil
  | cons c tail =>
    cases hgrows : s.grows c with
    | false => exact hread rfl (stops_cons.2 hgrows)
    | true =>
      obtain ⟨longer, hspelling, hstops⟩ := exists_of_grows hgrows
      exact hread (by rw [hspelling, List.append_assoc]; rfl) fun d _ => hstops d

/-- A word that the text starts with is the only one, and the text starts with no sign. -/
theorem longest?_of_word {text : List Char} {kind : Token.Kind} (h : ofWord? (nameRun text) = some kind) :
    longest? text fixed = some (some kind) := by
  obtain ⟨hkind, hisWord, hrun⟩ := ofWord?_eq_some_iff.1 h
  refine longest?_eq_some (fun _ => id) hkind ((starts_of_isWord hisWord).2 hrun) fun other hother hstarts => .inl ?_
  cases hotherWord : other.isWord with
  | true =>
    have hother' := ofWord?_eq_some_iff.2 ⟨hother, hotherWord, (starts_of_isWord hotherWord).1 hstarts⟩
    exact Option.some.inj (hother'.symm.trans h)
  | false =>
    obtain ⟨s, rfl⟩ := eq_symbol_of_isWord_eq_false hotherWord
    obtain ⟨c, tail, hspelling, hnameChar⟩ := isNameChar_head_symbol s
    obtain ⟨behind, rfl⟩ := starts_symbol_iff.1 hstarts
    rw [hspelling, List.cons_append, nameRun_cons_of_false hnameChar, ofWord?_nil] at h
    simp at h

/-- Where no word is read the text starts with signs only. -/
theorem exists_symbol_of_starts {text : List Char} {kind : Token.Kind} (h : ofWord? (nameRun text) = none)
    (hkind : kind ∈ fixed) (hstarts : kind.Starts text) : ∃ s : Symbol, kind = .symbol s ∧ s.spelling.toList <+: text := by
  cases hisWord : kind.isWord with
  | true =>
    have hread := ofWord?_eq_some_iff.2 ⟨hkind, hisWord, (starts_of_isWord hisWord).1 hstarts⟩
    simp [h] at hread
  | false =>
    obtain ⟨s, rfl⟩ := eq_symbol_of_isWord_eq_false hisWord
    exact ⟨s, rfl, hstarts⟩

end Token.Kind

namespace Lexeme

open Token.Kind

/-- The word or sign that is read is the longest one that the text starts with. -/
theorem longest?_fixed (text : List Char) : longest? text fixed = some ((reserved? text).map (·.kind)) := by
  rw [reserved?]
  cases hword : Token.Kind.ofWord? (nameRun text) with
  | some kind => exact longest?_of_word hword
  | none =>
    cases hsign : Symbol.split? text with
    | some pair =>
      obtain ⟨s, rest⟩ := pair
      have htext := (Symbol.split?_eq_some_iff.1 hsign).1
      refine longest?_eq_some (fun _ => id) (symbol_mem_fixed s) ⟨rest, htext.symm⟩ fun other hother hstarts => ?_
      obtain ⟨t, rfl, hprefix⟩ := exists_symbol_of_starts hword hother hstarts
      exact (eq_or_length_lt_of_split? hsign hprefix).imp (congrArg _) id
    | none =>
      refine longest?_eq_none (fun _ => id) fun kind hkind hstarts => ?_
      obtain ⟨s, rfl, hprefix⟩ := exists_symbol_of_starts hword hkind hstarts
      exact not_prefix_of_split? hsign hprefix

/-- A word or sign is as long as its spelling in lower case. -/
theorem length_of_reserved? {text : List Char} {l : Lexeme} (h : reserved? text = some l) :
    l.spelling.length = l.kind.text.length := by
  rw [reserved?] at h
  split at h
  · next kind hword =>
    obtain rfl := Option.some.inj h
    obtain ⟨-, -, hrun⟩ := ofWord?_eq_some_iff.1 hword
    have hlength := congrArg List.length hrun
    rwa [List.length_map, String.length_toList] at hlength
  · obtain ⟨⟨s, rest⟩, -, rfl⟩ := Option.map_eq_some_iff.1 h
    exact String.length_toList

end Lexeme

namespace Place

/-- Moves over characters, which must be there. -/
def advanceBy? (place : Place) (source : List Char) (count : Nat) : Option Place := do
  let passed ← slice? place.offset (place.offset + count) source
  return ⟨place.offset + count, place.location.after passed⟩

/-- Reads a keyword, a truth value or a sign: the longest of those that the text starts with at the place. -/
def readReserved? (source : List Char) (place : Place) : Option (Option (Token × Place)) :=
  if source.length < place.offset then some none
  else do
    match ← Token.Kind.longest? (source.drop place.offset) Token.Kind.fixed with
    | none => return none
    | some kind => return some (⟨kind, place.location⟩, ← place.advanceBy? source kind.text.length)

/-- Reads a number. Its text is the stretch between the place and the place behind the number. -/
def readNumeral? (source : List Char) (place : Place) : Option (Option (Token × Place)) :=
  match Numeral.split? (source.drop place.offset) with
  | none => some none
  | some (numeral, _) => do
    let text ← slice? place.offset (place.offset + numeral.length) source
    return some (⟨.numeral (String.ofList text), place.location⟩, ← place.advanceBy? source numeral.length)

theorem advanceBy?_of_drop {place : Place} {source spelling rest : List Char}
    (h : spelling ++ rest = source.drop place.offset) (hne : spelling ≠ []) :
    place.advanceBy? source spelling.length =
      some ⟨place.offset + spelling.length, place.location.after spelling⟩ := by
  rw [advanceBy?, slice?_of_drop h hne]
  rfl

theorem readReserved?_eq (source : List Char) (place : Place) :
    place.readReserved? source = some (place.read? Lexeme.reserved? source) := by
  rw [readReserved?, read?]
  by_cases hbehind : source.length < place.offset
  · rw [if_pos hbehind, List.drop_of_length_le (Nat.le_of_lt hbehind)]
    rfl
  · rw [if_neg hbehind, Lexeme.longest?_fixed]
    cases hread : Lexeme.reserved? (source.drop place.offset) with
    | none => rfl
    | some lexeme =>
      obtain ⟨htext, hne⟩ := Lexeme.reserved?_tiles hread
      show (place.advanceBy? source lexeme.kind.text.length >>= fun next =>
        some (some (Token.mk lexeme.kind place.location, next))) = _
      rw [← Lexeme.length_of_reserved? hread, advanceBy?_of_drop htext hne]
      rfl

theorem readNumeral?_eq (source : List Char) (place : Place) :
    place.readNumeral? source = some (place.read? Lexeme.numeral? source) := by
  rw [readNumeral?, read?, Lexeme.numeral?]
  cases hsplit : Numeral.split? (source.drop place.offset) with
  | none => rfl
  | some pair =>
    obtain ⟨numeral, rest⟩ := pair
    obtain ⟨htext, hne⟩ := Numeral.split?_tiles hsplit
    dsimp only
    rw [slice?_of_drop htext hne, advanceBy?_of_drop htext hne]
    rfl

/-- A token ends behind the place where it starts, and not behind the end of the text. -/
theorem read?_within {reader : List Char → Option Lexeme}
    (htiles : ∀ {text : List Char} {lexeme : Lexeme}, reader text = some lexeme → lexeme.Tiles text)
    {source : List Char} {place next : Place} {token : Token} (h : place.read? reader source = some (token, next)) :
    place.offset < next.offset ∧ next.offset ≤ source.length := by
  obtain ⟨lexeme, hread, heq⟩ := Option.map_eq_some_iff.1 h
  obtain ⟨-, rfl⟩ := Prod.mk.inj heq
  obtain ⟨htext, hne⟩ := htiles hread
  have hpositive := List.length_pos_iff.2 hne
  have hlength := congrArg List.length htext
  rw [List.length_append, List.length_drop] at hlength
  dsimp only
  omega

end Place

end SqlShell
