import SqlShell.Text.Conjunct
import SqlShell.Text.Mark
import SqlShell.Text.Pictograph
/-!
# Clusters

What a reader sees as one character may be several: a letter with its accents, a syllable, a flag, a picture of a
family. These are the extended grapheme clusters of Unicode. Whether a character belongs to the cluster before it
depends on its class and on the classes in that cluster alone, so a text is cut into clusters from left to right.
No character is lost: `flatten_clusters`.
-/

namespace SqlShell.Text

/-- What a character is to the rules for clusters. -/
inductive ClusterClass where
  | carriageReturn
  | lineFeed
  | control
  | joiner
  | nonJoiner
  | linker
  | extending
  | spacing
  /-- A sign that belongs to the character behind it. -/
  | prepended
  /-- Half of a flag. -/
  | regional
  /-- The parts of Korean syllables, and syllables without and with a last part. -/
  | leading
  | vowel
  | trailing
  | openSyllable
  | closedSyllable
  | consonant
  | pictograph
  | other
deriving DecidableEq, Inhabited

/-- Control and format characters, apart from line ends and joiners. -/
def controls : List (Nat × Nat) :=
  [(0x0, 0x9), (0xB, 0xC), (0xE, 0x1F), (0x7F, 0x9F), (0xAD, 0xAD), (0x61C, 0x61C),
   (0x180E, 0x180E), (0x200B, 0x200B), (0x200E, 0x200F), (0x2028, 0x202E), (0x2060, 0x206F),
   (0xFEFF, 0xFEFF), (0xFFF0, 0xFFFB), (0x13430, 0x1343F), (0x1BCA0, 0x1BCA3), (0x1D173, 0x1D17A),
   (0xE0000, 0xE001F), (0xE0080, 0xE00FF), (0xE01F0, 0xE0FFF)]

/-- Signs that belong to the character behind them. -/
def prependedSigns : List (Nat × Nat) :=
  [(0x600, 0x605), (0x6DD, 0x6DD), (0x70F, 0x70F), (0x890, 0x891), (0x8E2, 0x8E2), (0xD4E, 0xD4E),
   (0x110BD, 0x110BD), (0x110CD, 0x110CD), (0x111C2, 0x111C3), (0x113D1, 0x113D1),
   (0x1193F, 0x1193F), (0x11941, 0x11941), (0x11A84, 0x11A89), (0x11D46, 0x11D46),
   (0x11F02, 0x11F02)]

/-- First parts of Korean syllables. -/
def leadingParts : List (Nat × Nat) :=
  [(0x1100, 0x115F), (0xA960, 0xA97C)]

/-- Vowels of Korean syllables, and vowel signs that behave like them. -/
def vowelParts : List (Nat × Nat) :=
  [(0x1160, 0x11A7), (0xD7B0, 0xD7C6), (0x16D63, 0x16D63), (0x16D67, 0x16D6A)]

/-- Last parts of Korean syllables. -/
def trailingParts : List (Nat × Nat) :=
  [(0x11A8, 0x11FF), (0xD7CB, 0xD7FB)]

/-- The class of a character. The whole Korean syllables come in rows of 28, of which the first has no last
part. -/
def ClusterClass.of (c : Char) : ClusterClass :=
  let code := c.toNat
  if c = '\r' then .carriageReturn
  else if c = '\n' then .lineFeed
  else if inRanges controls c then .control
  else if code < 0x80 then .other
  else if c = '\u200d' then .joiner
  else if c = '\u200c' then .nonJoiner
  else if isConjunctLinker c then .linker
  else if isExtendingMark c then .extending
  else if isSpacingMark c then .spacing
  else if inRanges prependedSigns c then .prepended
  else if inRanges [(0x1F1E6, 0x1F1FF)] c then .regional
  else if inRanges leadingParts c then .leading
  else if inRanges vowelParts c then .vowel
  else if inRanges trailingParts c then .trailing
  else if inRanges [(0xAC00, 0xD7A3)] c then
    if (code - 0xAC00) % 28 = 0 then .openSyllable else .closedSyllable
  else if isConjunctConsonant c then .consonant
  else if isPictograph c then .pictograph
  else .other

namespace ClusterClass

/-- The class always ends a cluster and starts a new one. -/
def isBreak : ClusterClass → Bool
  | .carriageReturn | .lineFeed | .control => true
  | _ => false

/-- The class is that of a mark that extends the character before it. -/
def isExtending : ClusterClass → Bool
  | .nonJoiner | .linker | .extending => true
  | _ => false

/-- The class may stand between two consonants that are joined. -/
def isInConjunct : ClusterClass → Bool
  | .joiner | .linker | .extending => true
  | _ => false

/-- The last character of a cluster and the next one are parts of one Korean syllable. -/
def isSyllablePart : ClusterClass → ClusterClass → Bool
  | .leading, .leading | .leading, .vowel | .leading, .openSyllable | .leading, .closedSyllable => true
  | .openSyllable, .vowel | .openSyllable, .trailing | .vowel, .vowel | .vowel, .trailing => true
  | .closedSyllable, .trailing | .trailing, .trailing => true
  | _, _ => false

/-- A cluster, given by its classes with the last one first, ends in a consonant and signs that join it to the
next one. -/
def endsInConjunct (before : List ClusterClass) : Bool :=
  (before.takeWhile isInConjunct).contains .linker && (before.dropWhile isInConjunct).head? == some .consonant

/-- A cluster ends in a picture, marks on it, and a joiner. -/
def endsInJoinedPictograph : List ClusterClass → Bool
  | .joiner :: before => (before.dropWhile isExtending).head? == some .pictograph
  | _ => false

/-- A cluster ends in the first half of a flag. -/
def endsInHalfFlag (before : List ClusterClass) : Bool :=
  (before.takeWhile (· == .regional)).length % 2 == 1

/-- A character of a class belongs to the cluster before it, which is given by its classes, the last one
first. -/
def joins (before : List ClusterClass) (next : ClusterClass) : Bool :=
  match before with
  | [] => false
  | last :: _ =>
    if last.isBreak || next.isBreak then last == .carriageReturn && next == .lineFeed
    else next.isExtending || next == .joiner || next == .spacing || last == .prepended
      || isSyllablePart last next
      || (next == .consonant && endsInConjunct before)
      || (next == .pictograph && endsInJoinedPictograph before)
      || (next == .regional && endsInHalfFlag before)

end ClusterClass

/-- The clusters of a text behind a cluster that has begun, of which the characters and their classes are given,
the last ones first. -/
def clustersFrom (begun : List Char) (classes : List ClusterClass) : List Char → List (List Char)
  | [] => if begun.isEmpty then [] else [begun.reverse]
  | c :: rest =>
    let next := ClusterClass.of c
    if begun.isEmpty || ClusterClass.joins classes next then clustersFrom (c :: begun) (next :: classes) rest
    else begun.reverse :: clustersFrom [c] [next] rest

/-- The clusters of a text. -/
def clusters (text : List Char) : List (List Char) :=
  clustersFrom [] [] text

theorem flatten_clustersFrom (begun : List Char) (classes : List ClusterClass) (text : List Char) :
    (clustersFrom begun classes text).flatten = begun.reverse ++ text := by
  fun_induction clustersFrom begun classes text <;> simp_all

/-- The clusters of a text make up the text. -/
theorem flatten_clusters (text : List Char) : (clusters text).flatten = text :=
  flatten_clustersFrom [] [] text

end SqlShell.Text
